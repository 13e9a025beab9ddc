import Phrasebook.Catalog.Resolve

/-!
# Resolution is a first-match chain

A lookup is resolved in the current locale, then in the fallback, stopping at the first locale
that has a template for it. This file states what a template of one locale is without the
resolver, and the resolver against it:

* `Store.Hit s l lookup ns t`     `t` is the template of `lookup` in locale `l`: the message under
                                  the key recorded for `lookup` as a source text when that message
                                  exists, and otherwise the message under `lookup` itself;
* `Store.FirstHit s ls lookup ns l t`
                                  `l` is the first locale of `ls` with a template, and `t` is it.

The main statement is `resolve_first_hit`: the resolver answers with the first locale of the
current one and the fallback that has a template, and echoes the lookup, not found, when none
has. A recorded key wins over a message stored under the lookup itself, a recorded key with no
message falls through to it, and once the current locale misses the answer is the fallback's,
whichever locale is current.
-/

namespace Phrasebook.Store

/-- the template of a lookup in one locale -/
inductive Hit (s : Store) (l : Locale) (lookup ns : String) : String → Prop
  /-- the message under the key recorded for the lookup as a source text -/
  | indirect {key t : String} : s.metaKey l ns lookup = some key → s.message l ns key = some t →
      Hit s l lookup ns t
  /-- the message under the lookup itself, when no recorded key leads to a message -/
  | direct {t : String} : (∀ key, s.metaKey l ns lookup = some key → s.message l ns key = none) →
      s.message l ns lookup = some t → Hit s l lookup ns t

def FirstHit (s : Store) (ls : List Locale) (lookup ns : String) (l : Locale) (t : String) :
    Prop :=
  ∃ pre post, ls = pre ++ l :: post ∧ (∀ l' ∈ pre, ∀ t', ¬ s.Hit l' lookup ns t') ∧
    s.Hit l lookup ns t

section
variable {s : Store} {l l' : Locale} {ls : List Locale} {lookup ns t : String}

theorem resolveIn_eq_some_iff : s.resolveIn l lookup ns = some t ↔ s.Hit l lookup ns t := by
  unfold resolveIn
  cases hkey : s.metaKey l ns lookup with
  | none =>
    have hnone : ∀ key, s.metaKey l ns lookup = some key → s.message l ns key = none := by
      simp [hkey]
    simp only [Option.bind_none]
    refine ⟨Hit.direct hnone, ?_⟩
    rintro (⟨hk, -⟩ | ⟨-, hm⟩)
    · simp [hkey] at hk
    · exact hm
  | some key =>
    cases hmsg : s.message l ns key with
    | some t' =>
      simp only [Option.bind_some, hmsg]
      refine ⟨fun h => Hit.indirect hkey (h ▸ hmsg), ?_⟩
      rintro (⟨hk, hm⟩ | ⟨hnone, -⟩)
      · rw [hkey, Option.some.injEq] at hk
        subst hk
        rw [hmsg] at hm
        exact hm
      · simp [hnone key hkey] at hmsg
    | none =>
      have hnone : ∀ k, s.metaKey l ns lookup = some k → s.message l ns k = none := by
        intro k hk
        rw [hkey, Option.some.injEq] at hk
        exact hk ▸ hmsg
      simp only [Option.bind_some, hmsg]
      refine ⟨Hit.direct hnone, ?_⟩
      rintro (⟨hk, hm⟩ | ⟨-, hm⟩)
      · simp [hnone _ hk] at hm
      · exact hm

theorem resolveIn_eq_none_iff : s.resolveIn l lookup ns = none ↔ ∀ t, ¬ s.Hit l lookup ns t := by
  simp only [Option.eq_none_iff_forall_ne_some, ne_eq, resolveIn_eq_some_iff]

theorem Hit.unique {t' : String} (h : s.Hit l lookup ns t) (h' : s.Hit l lookup ns t') :
    t = t' := by
  rw [← resolveIn_eq_some_iff] at h h'
  rw [h] at h'
  exact Option.some.inj h'

theorem hit_iff_of_recorded {key t₀ : String} (hkey : s.metaKey l ns lookup = some key)
    (hmsg : s.message l ns key = some t₀) : s.Hit l lookup ns t ↔ t = t₀ :=
  ⟨fun h => h.unique (.indirect hkey hmsg), fun h => h ▸ .indirect hkey hmsg⟩

theorem hit_iff_of_dangling {key : String} (hkey : s.metaKey l ns lookup = some key)
    (hmsg : s.message l ns key = none) : s.Hit l lookup ns t ↔ s.message l ns lookup = some t := by
  have hnone : ∀ k, s.metaKey l ns lookup = some k → s.message l ns k = none := by
    intro k hk
    rw [hkey, Option.some.injEq] at hk
    exact hk ▸ hmsg
  refine ⟨?_, Hit.direct hnone⟩
  rintro (⟨hk, hm⟩ | ⟨-, hm⟩)
  · simp [hnone _ hk] at hm
  · exact hm

theorem not_firstHit_nil : ¬ s.FirstHit [] lookup ns l t := by
  rintro ⟨pre, post, hls, -, -⟩
  simp at hls

theorem firstHit_cons_iff :
    s.FirstHit (l :: ls) lookup ns l' t ↔
      (l' = l ∧ s.Hit l lookup ns t) ∨ ((∀ t', ¬ s.Hit l lookup ns t') ∧ s.FirstHit ls lookup ns l' t) := by
  constructor
  · rintro ⟨pre, post, hls, hpre, hhit⟩
    cases pre with
    | nil =>
      obtain ⟨rfl, -⟩ := List.cons.inj hls
      exact .inl ⟨rfl, hhit⟩
    | cons p pre =>
      obtain ⟨rfl, hrest⟩ := List.cons.inj hls
      exact .inr ⟨hpre l List.mem_cons_self,
        pre, post, hrest, fun l'' h => hpre l'' (List.mem_cons_of_mem _ h), hhit⟩
  · rintro (⟨rfl, hhit⟩ | ⟨hmiss, pre, post, hls, hpre, hhit⟩)
    · exact ⟨[], ls, rfl, by simp, hhit⟩
    · refine ⟨l :: pre, post, by rw [hls, List.cons_append], ?_, hhit⟩
      intro l'' h
      rcases List.mem_cons.1 h with rfl | h
      · exact hmiss
      · exact hpre l'' h

end

section
variable (s : Store) (current : Locale) (fallback : Option Locale) (lookup ns : String)

theorem resolve_of_current_miss (h : s.resolveIn current lookup ns = none) :
    s.resolve current fallback lookup ns =
      match fallback with
      | some f =>
        match s.resolveIn f lookup ns with
        | some t => ⟨t, true, some f⟩
        | none => ⟨lookup, false, none⟩
      | none => ⟨lookup, false, none⟩ := by
  cases fallback with
  | none => simp [resolve, h]
  | some f =>
    cases hf : s.resolveIn f lookup ns <;> simp [resolve, h, hf]

theorem resolve_eq_cases :
    (∃ t l, s.FirstHit (current :: fallback.toList) lookup ns l t ∧
      s.resolve current fallback lookup ns = ⟨t, true, some l⟩) ∨
    ((∀ l ∈ current :: fallback.toList, ∀ t, ¬ s.Hit l lookup ns t) ∧
      s.resolve current fallback lookup ns = ⟨lookup, false, none⟩) := by
  cases hcur : s.resolveIn current lookup ns with
  | some t =>
    have hhit := resolveIn_eq_some_iff.1 hcur
    exact .inl ⟨t, current, firstHit_cons_iff.2 (.inl ⟨rfl, hhit⟩), by simp [resolve, hcur]⟩
  | none =>
    have hmiss := resolveIn_eq_none_iff.1 hcur
    rw [resolve_of_current_miss s current fallback lookup ns hcur]
    cases fallback with
    | none =>
      refine .inr ⟨?_, rfl⟩
      simpa using hmiss
    | some f =>
      cases hf : s.resolveIn f lookup ns with
      | some t =>
        refine .inl ⟨t, f, firstHit_cons_iff.2 (.inr ⟨hmiss, ?_⟩), by simp [hf]⟩
        exact firstHit_cons_iff.2 (.inl ⟨rfl, resolveIn_eq_some_iff.1 hf⟩)
      | none =>
        refine .inr ⟨?_, by simp [hf]⟩
        simpa [hmiss] using resolveIn_eq_none_iff.1 hf

theorem FirstHit.unique {ls : List Locale} {l l' : Locale} {t t' : String}
    (h : s.FirstHit ls lookup ns l t) (h' : s.FirstHit ls lookup ns l' t') : l = l' ∧ t = t' := by
  induction ls with
  | nil => exact absurd h not_firstHit_nil
  | cons l₀ ls ih =>
    rcases firstHit_cons_iff.1 h with ⟨rfl, hhit⟩ | ⟨hmiss, hrest⟩ <;>
      rcases firstHit_cons_iff.1 h' with ⟨rfl, hhit'⟩ | ⟨hmiss', hrest'⟩
    · exact ⟨rfl, hhit.unique hhit'⟩
    · exact absurd hhit (hmiss' t)
    · exact absurd hhit' (hmiss t')
    · exact ih hrest hrest'

end

theorem resolve_eq_found_iff (s : Store) (current : Locale) (fallback : Option Locale)
    (lookup ns : String) {t : String} {l : Locale} :
    s.resolve current fallback lookup ns = ⟨t, true, some l⟩ ↔
      s.FirstHit (current :: fallback.toList) lookup ns l t := by
  constructor
  · intro hres
    rcases resolve_eq_cases s current fallback lookup ns with
      ⟨t', l', hfirst, hres'⟩ | ⟨-, hres'⟩
    · rw [hres] at hres'
      cases hres'
      exact hfirst
    · rw [hres] at hres'
      cases hres'
  · intro hfirst
    rcases resolve_eq_cases s current fallback lookup ns with
      ⟨t', l', hfirst', hres'⟩ | ⟨hmiss, -⟩
    · obtain ⟨rfl, rfl⟩ := FirstHit.unique s lookup ns hfirst hfirst'
      exact hres'
    · obtain ⟨pre, post, hls, -, hhit⟩ := hfirst
      exact absurd hhit (hmiss l (by rw [hls]; simp) t)

theorem resolve_eq_miss_iff (s : Store) (current : Locale) (fallback : Option Locale)
    (lookup ns : String) :
    s.resolve current fallback lookup ns = ⟨lookup, false, none⟩ ↔
      ∀ l ∈ current :: fallback.toList, ∀ t, ¬ s.Hit l lookup ns t := by
  constructor
  · intro hres l hl t hhit
    rcases resolve_eq_cases s current fallback lookup ns with ⟨t', l', -, hres'⟩ | ⟨hmiss, -⟩
    · rw [hres] at hres'
      cases hres'
    · exact hmiss l hl t hhit
  · intro hmiss
    rcases resolve_eq_cases s current fallback lookup ns with
      ⟨t', l', ⟨pre, post, hls, -, hhit⟩, -⟩ | ⟨-, hres⟩
    · exact absurd hhit (hmiss l' (by rw [hls]; simp) t')
    · exact hres

/-- Resolution is the first-match chain over the current locale and the fallback, if any. It
answers with template `t` from locale `l`, found, exactly when `l` is the first of them where the
lookup has the template `t`; and with the lookup itself, not found and from no locale, exactly
when none of them has a template. In one locale, a message under the key recorded for the lookup
is its template even when a message is stored under the lookup itself, and a recorded key with no
message falls through to the message under the lookup. Once the current locale has no template,
the answer does not depend on which locale is current. -/
theorem resolve_first_hit (s : Store) (current : Locale) (fallback : Option Locale)
    (lookup ns : String) :
    (∀ t l, s.resolve current fallback lookup ns = ⟨t, true, some l⟩ ↔
      s.FirstHit (current :: fallback.toList) lookup ns l t) ∧
    (s.resolve current fallback lookup ns = ⟨lookup, false, none⟩ ↔
      ∀ l ∈ current :: fallback.toList, ∀ t, ¬ s.Hit l lookup ns t) ∧
    (∀ l key t, s.metaKey l ns lookup = some key → s.message l ns key = some t →
      ∀ t', s.Hit l lookup ns t' ↔ t' = t) ∧
    (∀ l key t, s.metaKey l ns lookup = some key → s.message l ns key = none →
      (s.Hit l lookup ns t ↔ s.message l ns lookup = some t)) ∧
    (∀ other, (∀ t, ¬ s.Hit current lookup ns t) → (∀ t, ¬ s.Hit other lookup ns t) →
      s.resolve other fallback lookup ns = s.resolve current fallback lookup ns) := by
  refine ⟨fun t l => resolve_eq_found_iff s current fallback lookup ns,
    resolve_eq_miss_iff s current fallback lookup ns,
    fun l key t hkey hmsg t' => hit_iff_of_recorded hkey hmsg,
    fun l key t hkey hmsg => hit_iff_of_dangling hkey hmsg, fun other hcur hother => ?_⟩
  rw [resolve_of_current_miss s other fallback lookup ns (resolveIn_eq_none_iff.2 hother),
    resolve_of_current_miss s current fallback lookup ns (resolveIn_eq_none_iff.2 hcur)]

end Phrasebook.Store
