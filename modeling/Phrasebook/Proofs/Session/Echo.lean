import Phrasebook.Session.State

/-!
# Echoing lookups that have no translation

A lookup that no locale translates is its own template. When it does not look like a message it
skips message evaluation and goes straight to the tag pass; when no tag span of it has a handler
the tag pass hands it to substitution; and substitution changes nothing when no value that
substitution uses has its placeholder in the text.

* `replaceAll_of_not_infix`      replacing a pattern that does not occur changes nothing;
* `substitute_of_no_placeholder` substitution without placeholders is the identity;
* `interpolate_of_unhandled`     a tag pass that handles no span is substitution alone;
* `resolution_of_miss`           a lookup that misses in the current and fallback locales
                                 resolves to itself, not found.

The main statement is `miss_echoes_lookup`: under those conditions a session translates the
lookup into the lookup with its placeholders substituted, and into the lookup itself when no
substituted name has a placeholder in it.
-/

namespace Phrasebook

namespace Markup

/-! ## Substitution without placeholders -/

/-- replacing a pattern that does not occur in a text changes nothing -/
theorem replaceAll_of_not_infix {pat : List Char} (rep : List Char) {cs : List Char}
    (h : ¬ pat <:+: cs) : replaceAll pat rep cs = cs := by
  fun_induction replaceAll pat rep cs with
  | case1 => simp at h
  | case2 => rfl
  | case3 p ps c rest hpre => exact absurd (List.isPrefixOf_iff_prefix.1 hpre).isInfix h
  | case4 p ps c rest _ ih =>
    rw [ih fun hi => h (hi.trans (List.suffix_cons c rest).isInfix)]

theorem foldl_eq_of_fixed {α β : Type} {f : α → β → α} {a : α} :
    ∀ {l : List β}, (∀ b ∈ l, f a b = a) → l.foldl f a = a
  | [], _ => rfl
  | b :: l, h => by
    rw [List.foldl_cons, h b List.mem_cons_self,
      foldl_eq_of_fixed fun b' hb' => h b' (List.mem_cons_of_mem _ hb')]

/-- substitution leaves a text alone when no name with a text or number value has its
placeholder in it -/
theorem substitute_of_no_placeholder {text : String} {vs : Values}
    (h : ∀ k s, (k, Value.scalar s) ∈ vs.toList → s.isTextOrNumber = true →
      ¬ placeholder k <:+: text.toList) :
    substitute text vs = text := by
  rw [substitute, foldl_eq_of_fixed, String.ofList_toList]
  rintro ⟨k, v⟩ hkv
  cases v with
  | tag hd => rfl
  | scalar s =>
    by_cases hs : s.isTextOrNumber = true
    · simp only [hs, if_true]
      exact replaceAll_of_not_infix _ (h k s hkv hs)
    · simp [hs]

/-! ## A tag pass that handles nothing -/

def NoneHandled (vs : Values) (reg : TagRegistry) (segs : List Segment) : Prop :=
  ∀ sp, .span sp ∈ segs → sp.opening = sp.closing →
    reg.get? sp.opening = none ∧ vs.tag? sp.opening = none

theorem step_handled {vs : Values} {reg : TagRegistry} {l : Locale} (p : Progress)
    {seg : Segment} (h : NoneHandled vs reg [seg]) : (step vs reg l p seg).handled = p.handled := by
  cases seg with
  | text s => rfl
  | span sp =>
    by_cases heq : sp.opening = sp.closing
    · obtain ⟨hg, ht⟩ := h sp List.mem_cons_self heq
      simp [step, hg, ht]
    · simp [step, heq]

theorem foldl_step_handled {vs : Values} {reg : TagRegistry} {l : Locale} :
    ∀ {segs : List Segment} (p : Progress), NoneHandled vs reg segs →
      (segs.foldl (step vs reg l) p).handled = p.handled
  | [], _, _ => rfl
  | seg :: rest, p, h => by
    rw [List.foldl_cons, foldl_step_handled _ fun sp hs => h sp (List.mem_cons_of_mem _ hs),
      step_handled p fun sp hs => h sp (List.mem_cons.2 (.inl (List.mem_singleton.1 hs)))]

/-- when no span of a text has a handler, interpolation is substitution alone -/
theorem interpolate_of_unhandled {text : String} {vs : Values} {reg : TagRegistry} {l : Locale}
    (h : NoneHandled vs reg (segments text)) :
    interpolate text vs reg l = .text (substitute text vs) := by
  have hp : ((segments text).foldl (step vs reg l) {}).handled = false := foldl_step_handled {} h
  simp [interpolate, hp]

end Markup

/-! ## Translating a miss -/

namespace Session

/-- a lookup that misses in the current locale and in the fallback, if any, resolves to itself -/
theorem resolution_of_miss {s : Session} {lookup : String} {ns : Option String}
    (hcur : s.state.store.resolveIn s.state.current lookup
      (ns.getD s.state.defaultNamespace) = none)
    (hfb : ∀ f ∈ s.state.fallback,
      s.state.store.resolveIn f lookup (ns.getD s.state.defaultNamespace) = none) :
    s.resolution lookup ns = ⟨lookup, false, none⟩ := by
  unfold resolution Store.resolve
  rw [hcur]
  cases hf : s.state.fallback with
  | none => rfl
  | some f => simp [hfb f hf]

theorem translateRich_of_plain {s : Session} {lookup : String} {vs : Values} {ns : Option String}
    (hres : s.resolution lookup ns = ⟨lookup, false, none⟩)
    (hicu : Message.looksLikeMessage lookup = false) :
    s.translateRich lookup vs ns = Markup.interpolate lookup vs s.tags s.state.current := by
  simp [translateRich, hres, hicu]

/-- A lookup with no translation echoes through the whole pipeline. When it misses in the
current and fallback locales, does not look like a message, and has no tag span with a handler,
the session renders it as plain text with its placeholders substituted; when besides no name
with a text or number value has its placeholder in it, the rendering is the lookup itself. -/
theorem miss_echoes_lookup (s : Session) (lookup : String) (vs : Values) (ns : Option String)
    (hcur : s.state.store.resolveIn s.state.current lookup
      (ns.getD s.state.defaultNamespace) = none)
    (hfb : ∀ f ∈ s.state.fallback,
      s.state.store.resolveIn f lookup (ns.getD s.state.defaultNamespace) = none)
    (hicu : Message.looksLikeMessage lookup = false)
    (htags : Markup.NoneHandled vs s.tags (Markup.segments lookup)) :
    s.translateRich lookup vs ns = .text (Markup.substitute lookup vs) ∧
    s.translate lookup vs ns = Markup.substitute lookup vs ∧
    ((∀ k sc, (k, Value.scalar sc) ∈ vs.toList → sc.isTextOrNumber = true →
        ¬ Markup.placeholder k <:+: lookup.toList) →
      s.translateRich lookup vs ns = .text lookup ∧ s.translate lookup vs ns = lookup) := by
  have hrich : s.translateRich lookup vs ns = .text (Markup.substitute lookup vs) := by
    rw [translateRich_of_plain (resolution_of_miss hcur hfb) hicu,
      Markup.interpolate_of_unhandled htags]
  have htext : s.translate lookup vs ns = Markup.substitute lookup vs := by
    rw [translate, hrich, Markup.Rendered.display]
  refine ⟨hrich, htext, fun hnone => ?_⟩
  rw [Markup.substitute_of_no_placeholder hnone] at hrich htext
  exact ⟨hrich, htext⟩

/-- On an empty store, a lookup with a tag span that has no handler and a placeholder that no
value fills comes back as it is. -/
theorem unhandled_tag_lookup_echoes :
    let s : Session := { state := ⟨{}, ⟨"en"⟩, none, defaultNamespaceName⟩ }
    let vs := Values.empty.set "count" (.scalar (.int 3))
    s.state.store.resolveIn s.state.current "Hi <b>{name}</b>" defaultNamespaceName = none ∧
      Message.looksLikeMessage "Hi <b>{name}</b>" = false ∧
      Markup.NoneHandled vs s.tags (Markup.segments "Hi <b>{name}</b>") ∧
      s.translate "Hi <b>{name}</b>" vs none = "Hi <b>{name}</b>" := by
  intro s vs
  have hchars : "Hi <b>{name}</b>".toList =
      ['H', 'i', ' ', '<', 'b', '>', '{', 'n', 'a', 'm', 'e', '}', '<', '/', 'b', '>'] := by decide
  have hcur : s.state.store.resolveIn s.state.current "Hi <b>{name}</b>" defaultNamespaceName =
      none := rfl
  have hicu : Message.looksLikeMessage "Hi <b>{name}</b>" = false := by decide
  have hsegs : Markup.segments "Hi <b>{name}</b>" =
      [.text "Hi ", .span ⟨"b", "{name}", "b"⟩, .text ""] := by
    rw [Markup.segments, hchars]
    simp [Markup.scan, Markup.readSpan, Text.isWordChar]
  have htags : Markup.NoneHandled vs s.tags (Markup.segments "Hi <b>{name}</b>") := by
    rw [hsegs]
    intro sp hsp _
    simp only [List.mem_cons, Markup.Segment.span.injEq, reduceCtorEq, List.not_mem_nil,
      or_false, false_or] at hsp
    subst hsp
    exact ⟨rfl, rfl⟩
  have hnone : ∀ k sc, (k, Value.scalar sc) ∈ vs.toList → sc.isTextOrNumber = true →
      ¬ Markup.placeholder k <:+: "Hi <b>{name}</b>".toList := by
    intro k sc hk _
    simp only [vs, Values.toList, Values.set, Values.empty, Table.toList, Table.insert,
      Table.empty, Table.insertEntry, List.mem_singleton, Prod.mk.injEq] at hk
    rw [hk.1, hchars]
    decide
  exact ⟨hcur, hicu, htags,
    ((miss_echoes_lookup s _ vs none hcur (by simp [s]) hicu htags).2.2 hnone).2⟩

end Session

end Phrasebook
