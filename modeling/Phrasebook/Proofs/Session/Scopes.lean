import Phrasebook.Session.Provider

/-!
# Provider scopes and their guards

Entering a provider scope gives a guard, and the scope ends when its guard is dropped. A guard
does not know its scope: dropping any guard leaves the innermost scope. This module follows one
thread through a sequence of events (`Providers.Event`): entering a scope with a session, or
dropping the guard of a scope entered earlier. Beside the providers, `Providers.Thread` records
which guards are alive, numbered in the order their scopes were entered.

* `Thread.Numbered`  the live guards are listed latest first, each below the count of scopes;
* `Thread.Valid`     besides, there are as many open scopes as live guards;
* `Thread.Stacked`   the open scopes are the sessions of the live guards, innermost first.

Every event keeps `Numbered`, dropping a live guard keeps `Valid`, and dropping the latest live
guard keeps `Stacked`. The main statement is `hooks_follow_live_guards`: after any sequence of
events the hooks fail, each naming itself, exactly when no guard is alive; when guards are
dropped in the reverse order of entering, the hooks answer with the session of the latest live
guard; and dropping an earlier guard first leaves them on the session of the scope below the
latest, while the latest guard is still alive.
-/

namespace Phrasebook.Providers

/-- what a thread does with provider scopes: enter one with a session, or drop the guard of the
scope it entered as the `g`-th, counting from zero -/
inductive Event where
  | enter (s : Session)
  | drop (g : Nat)

/-- the providers of a thread, its live guards (the number of their scope and its session,
latest first) and the count of scopes entered so far -/
structure Thread where
  providers : Providers := {}
  live : List (Nat × Session) := []
  entered : Nat := 0

namespace Thread

def next (t : Thread) : Event → Thread
  | .enter s => ⟨t.providers.enter s, (t.entered, s) :: t.live, t.entered + 1⟩
  | .drop g => ⟨t.providers.leave, t.live.filter (·.1 != g), t.entered⟩

def Enabled (t : Thread) : Event → Prop
  | .enter _ => True
  | .drop g => g ∈ t.live.map Prod.fst

def InOrder (t : Thread) : Event → Prop
  | .enter _ => True
  | .drop g => t.live.head?.map Prod.fst = some g

def run (t : Thread) : List Event → Thread
  | [] => t
  | e :: es => (t.next e).run es

def Along (P : Thread → Event → Prop) (t : Thread) : List Event → Prop
  | [] => True
  | e :: es => P t e ∧ Along P (t.next e) es

def Latest (t : Thread) (g : Nat) (s : Session) : Prop :=
  (g, s) ∈ t.live ∧ ∀ x ∈ t.live, x.1 ≤ g

/-! ## Numbered guards -/

/-- the live guards are listed latest first, each numbered below the count of scopes entered -/
structure Numbered (t : Thread) : Prop where
  descending : t.live.Pairwise fun a b => b.1 < a.1
  below : ∀ x ∈ t.live, x.1 < t.entered

theorem numbered_next {t : Thread} (h : t.Numbered) (e : Event) : (t.next e).Numbered := by
  cases e with
  | enter s =>
    refine ⟨List.pairwise_cons.2 ⟨h.below, h.descending⟩, fun x hx => ?_⟩
    rcases List.mem_cons.1 hx with rfl | hx
    · exact Nat.lt_succ_self _
    · exact Nat.lt_succ_of_lt (h.below x hx)
  | drop g => exact ⟨h.descending.filter _, fun x hx => h.below x (List.mem_filter.1 hx).1⟩

theorem filter_head {x : Nat × Session} {rest : List (Nat × Session)}
    (h : (x :: rest).Pairwise fun a b => b.1 < a.1) : (x :: rest).filter (·.1 != x.1) = rest := by
  have hrest : rest.filter (·.1 != x.1) = rest := by
    refine List.filter_eq_self.2 fun y hy => ?_
    have hlt := List.rel_of_pairwise_cons h hy
    simpa using Nat.ne_of_lt hlt
  simp [hrest]

theorem length_filter_add_one : ∀ {l : List (Nat × Session)} {g : Nat},
    l.Pairwise (fun a b => b.1 < a.1) → g ∈ l.map Prod.fst →
      (l.filter (·.1 != g)).length + 1 = l.length
  | [], _, _, hg => by simp at hg
  | x :: rest, g, h, hg => by
    by_cases hx : x.1 = g
    · subst hx
      rw [filter_head h, List.length_cons]
    · have hg' : g ∈ rest.map Prod.fst := by
        rcases List.mem_cons.1 hg with hg | hg
        · exact absurd hg.symm hx
        · exact hg
      have ih := length_filter_add_one (List.pairwise_cons.1 h).2 hg'
      simp [hx, ih]

theorem latest_iff_head {t : Thread} (h : t.Numbered) {g : Nat} {s : Session} :
    t.Latest g s ↔ t.live.head? = some (g, s) := by
  constructor
  · rintro ⟨hmem, hmax⟩
    cases hl : t.live with
    | nil => rw [hl] at hmem; cases hmem
    | cons y rest =>
      have hdesc := h.descending
      rw [hl] at hmem hmax hdesc
      rcases List.mem_cons.1 hmem with rfl | hmem
      · rfl
      · have hlt := List.rel_of_pairwise_cons hdesc hmem
        have hle := hmax y List.mem_cons_self
        exact absurd hle (Nat.not_le_of_lt hlt)
  · intro hhead
    obtain ⟨rest, hl⟩ := List.head?_eq_some_iff.1 hhead
    have hdesc := h.descending
    rw [hl] at hdesc
    refine ⟨by rw [hl]; exact List.mem_cons_self, fun x hx => ?_⟩
    rw [hl] at hx
    rcases List.mem_cons.1 hx with rfl | hx
    · exact Nat.le_refl _
    · exact Nat.le_of_lt (List.rel_of_pairwise_cons hdesc hx)

/-! ## Open scopes and live guards -/

/-- a thread whose guards were dropped only while alive: numbered guards, and as many open
scopes as live guards -/
structure Valid (t : Thread) : Prop extends t.Numbered where
  balanced : t.providers.stack.length = t.live.length

theorem valid_start : (({} : Thread)).Valid := ⟨⟨.nil, by simp⟩, rfl⟩

theorem valid_next {t : Thread} (h : t.Valid) {e : Event} (he : t.Enabled e) :
    (t.next e).Valid := by
  refine ⟨numbered_next h.toNumbered e, ?_⟩
  cases e with
  | enter s => simp [next, Providers.enter, h.balanced]
  | drop g =>
    have hone := length_filter_add_one h.descending he
    simp only [next, Providers.leave, List.length_tail, h.balanced]
    omega

theorem valid_run {t : Thread} (h : t.Valid) {es : List Event} (hes : Along Enabled t es) :
    (t.run es).Valid := by
  induction es generalizing t with
  | nil => exact h
  | cons e es ih => exact ih (valid_next h hes.1) hes.2

/-- the open scopes are the sessions of the live guards, innermost first -/
def Stacked (t : Thread) : Prop := t.providers.stack = t.live.map Prod.snd

theorem stacked_next {t : Thread} (hn : t.Numbered) (h : t.Stacked) {e : Event}
    (he : t.InOrder e) : (t.next e).Stacked := by
  have hs : t.providers.stack = t.live.map Prod.snd := h
  cases e with
  | enter s => simp only [Stacked, next, Providers.enter, hs, List.map_cons]
  | drop g =>
    have hfirst : t.live.head?.map Prod.fst = some g := he
    obtain ⟨x, hx, rfl⟩ := Option.map_eq_some_iff.1 hfirst
    obtain ⟨rest, hl⟩ := List.head?_eq_some_iff.1 hx
    have hdesc := hn.descending
    rw [hl] at hdesc
    simp only [Stacked, next, Providers.leave, hs, hl, filter_head hdesc, List.map_cons,
      List.tail_cons]

theorem stacked_run {t : Thread} (hn : t.Numbered) (h : t.Stacked) {es : List Event}
    (hes : Along InOrder t es) : (t.run es).Stacked := by
  induction es generalizing t with
  | nil => exact h
  | cons e es ih => exact ih (numbered_next hn e) (stacked_next hn h hes.1) hes.2

/-! ## What the hooks answer -/

theorem useI18n_eq_error_iff (p : Providers) :
    p.useI18n = .error (.outsideProvider "use_i18n") ↔ p.stack = [] := by
  cases h : p.stack <;> simp [useI18n, current, h]

theorem useTranslation_eq_error_iff (p : Providers) (ns : Option String) :
    p.useTranslation ns = .error (.outsideProvider "use_translation") ↔ p.stack = [] := by
  cases h : p.stack <;> simp [useTranslation, current, h, Except.map]

theorem hooks_of_stack {p : Providers} {s : Session} {rest : List Session}
    (h : p.stack = s :: rest) :
    p.useI18n = .ok s ∧ ∀ ns, p.useTranslation ns = .ok ⟨s, ns⟩ := by
  simp [useI18n, useTranslation, current, h, Except.map]

theorem hooks_error_iff {t : Thread} (h : t.Valid) :
    (t.providers.useI18n = .error (.outsideProvider "use_i18n") ↔ t.live = []) ∧
    ∀ ns, t.providers.useTranslation ns = .error (.outsideProvider "use_translation") ↔
      t.live = [] := by
  have hlen : t.providers.stack = [] ↔ t.live = [] := by
    rw [← List.length_eq_zero_iff, h.balanced, List.length_eq_zero_iff]
  exact ⟨(useI18n_eq_error_iff _).trans hlen,
    fun ns => (useTranslation_eq_error_iff _ ns).trans hlen⟩

theorem hooks_of_latest {t : Thread} (hn : t.Numbered) (h : t.Stacked) {g : Nat} {s : Session}
    (hl : t.Latest g s) :
    t.providers.useI18n = .ok s ∧ ∀ ns, t.providers.useTranslation ns = .ok ⟨s, ns⟩ := by
  obtain ⟨rest, hlive⟩ := List.head?_eq_some_iff.1 ((latest_iff_head hn).1 hl)
  exact hooks_of_stack (by rw [h, hlive, List.map_cons])

theorem hooks_after_early_drop {t : Thread} (hn : t.Numbered) (h : t.Stacked)
    {g₂ g₁ g : Nat} {s₂ s₁ : Session} {rest : List (Nat × Session)}
    (hl : t.live = (g₂, s₂) :: (g₁, s₁) :: rest) (hg : g ≠ g₂) :
    (t.next (.drop g)).Latest g₂ s₂ ∧ (t.next (.drop g)).providers.useI18n = .ok s₁ := by
  have hs : t.providers.stack = t.live.map Prod.snd := h
  refine ⟨(latest_iff_head (numbered_next hn _)).2 ?_,
    (@hooks_of_stack _ s₁ (rest.map Prod.snd) ?_).1⟩
  · simp [next, hl, Ne.symm hg]
  · simp [next, Providers.leave, hs, hl]

/-- The hooks follow the live guards. After any sequence of scope events that drops only live
guards, each hook fails with its own name exactly when no guard is alive. When the guards were
dropped in the reverse order of entering, the hooks answer with the session of the latest live
guard; dropping an earlier guard next leaves them on the session of the scope below the latest,
although the latest guard is still alive. -/
theorem hooks_follow_live_guards (events : List Event) (hvalid : Along Enabled {} events) :
    ((run {} events).providers.useI18n = .error (.outsideProvider "use_i18n") ↔
        (run {} events).live = []) ∧
    (∀ ns, (run {} events).providers.useTranslation ns =
        .error (.outsideProvider "use_translation") ↔ (run {} events).live = []) ∧
    (Along InOrder {} events → ∀ g s, (run {} events).Latest g s →
      (run {} events).providers.useI18n = .ok s ∧
        ∀ ns, (run {} events).providers.useTranslation ns = .ok ⟨s, ns⟩) ∧
    (Along InOrder {} events → ∀ g₂ s₂ g₁ s₁ rest g,
      (run {} events).live = (g₂, s₂) :: (g₁, s₁) :: rest → g ≠ g₂ →
      ((run {} events).next (.drop g)).Latest g₂ s₂ ∧
        ((run {} events).next (.drop g)).providers.useI18n = .ok s₁) := by
  have hv := valid_run valid_start hvalid
  have hstacked : Along InOrder {} events → (run {} events).Stacked := fun ho =>
    stacked_run valid_start.toNumbered rfl ho
  refine ⟨(hooks_error_iff hv).1, (hooks_error_iff hv).2, ?_, ?_⟩
  · intro ho g s hl
    exact hooks_of_latest hv.toNumbered (hstacked ho) hl
  · intro ho g₂ s₂ g₁ s₁ rest g hl hg
    exact hooks_after_early_drop hv.toNumbered (hstacked ho) hl hg

def emptySession (tag : String) : Session :=
  { state := ⟨{}, ⟨tag⟩, none, defaultNamespaceName⟩ }

/-- Entering an outer and an inner scope and dropping the inner guard leaves the hooks on the
outer session. -/
theorem inner_scope_dropped :
    Along Enabled {} [.enter (emptySession "en"), .enter (emptySession "de"), .drop 1] ∧
      (run {} [.enter (emptySession "en"), .enter (emptySession "de"), .drop 1]).providers.useI18n =
        .ok (emptySession "en") := by
  have hv : Along Enabled {} [.enter (emptySession "en"), .enter (emptySession "de"), .drop 1] :=
    ⟨trivial, trivial, by simp [Enabled, next], trivial⟩
  have ho : Along InOrder {} [.enter (emptySession "en"), .enter (emptySession "de"), .drop 1] :=
    ⟨trivial, trivial, by simp [InOrder, next], trivial⟩
  have hl : (run {} [.enter (emptySession "en"), .enter (emptySession "de"), .drop 1]).Latest 0
      (emptySession "en") := ⟨by simp [run, next], by simp [run, next]⟩
  exact ⟨hv, ((hooks_follow_live_guards _ hv).2.2.1 ho 0 _ hl).1⟩

end Thread

end Phrasebook.Providers
