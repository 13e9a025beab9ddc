import Phrasebook.Proofs.Message.Evaluation
import Phrasebook.Proofs.Decimal.Magnitude

/-!
# The meaning of a message

`Writes c pound m r` says what writing the message `m` in the context `c` gives, with `#` standing
for `pound`: the elements in turn, their texts joined when all of them are written and the error
of the first that fails otherwise. Its rules for choices name the arm by what it is, not by how
it is searched for:

* `KeywordArm k arms`       the arm named `k`, else the arm `other`;
* `PluralArm rules v o arms` an arm `=x` with `x` equal to `v` itself, else the `KeywordArm` of
                            the category of `v - o`; the chosen arm is written with `#` as
                            `v - o`, whatever `#` stood for outside.

On the arms of a message that was read each rule picks exactly one arm (`pluralSearch_eq_some_iff`,
`keywordSearch_eq_some_iff`), which is the arm evaluation finds, since no two arms have the same
selector and equality of doubles is transitive. The category of a number is `other` when the
number is not finite and is that of its magnitude otherwise.

The main statement is `evaluate_iff_writes`.
-/

namespace Phrasebook

namespace Plural

theorem select_of_not_finite (rules : List Rule) {x : Float} (h : x.isFinite = false) :
    select rules x = .other := by
  unfold select
  cases hk : Decimal.DoubleKind.of x with
  | nan => rfl
  | infinity negative => rfl
  | finite d =>
    have hfin := (Decimal.isFinite_iff_kind x).2 ⟨d, hk⟩
    rw [h] at hfin
    cases hfin

theorem select_abs (rules : List Rule) (x : Float) : select rules x.abs = select rules x := by
  unfold select
  rw [Decimal.kind_abs]
  cases Decimal.DoubleKind.of x <;> rfl

end Plural

namespace Message

open Format

/-! ## Which arm a choice takes -/

/-- the arm a choice takes for the key `k`: the arm named `k`, else the arm `other` -/
inductive KeywordArm (k : String) (arms : List Arm) : Arm → Prop
  | named {a : Arm} : a ∈ arms → a.selector = .keyword k → KeywordArm k arms a
  | other {a : Arm} : (∀ b ∈ arms, b.selector ≠ .keyword k) → a ∈ arms →
      a.selector = .keyword "other" → KeywordArm k arms a

/-- the arm a plural choice takes for the value `v` with offset `o` under `rules`: an arm `=x`
with `x` equal to `v` itself; else the arm of the category of `v - o`, else `other` -/
inductive PluralArm (rules : List Plural.Rule) (v o : Float) (arms : List Arm) : Arm → Prop
  | exact {a : Arm} {x : Float} : a ∈ arms → a.selector = .exact x → (x == v) = true →
      PluralArm rules v o arms a
  | category {a : Arm} : (∀ b ∈ arms, ∀ x, b.selector = .exact x → (x == v) = false) →
      KeywordArm (Plural.select rules (v - o)).name arms a → PluralArm rules v o arms a

def keywordSearch (k : String) (arms : List Arm) : Option Arm :=
  (arms.find? (·.selector.isKeyword k)).or (arms.find? (·.selector.isKeyword "other"))

def pluralSearch (rules : List Plural.Rule) (v o : Float) (arms : List Arm) : Option Arm :=
  (arms.find? (·.selector.isExact v)).or (keywordSearch (Plural.select rules (v - o)).name arms)

theorem keywordArm_iff {k : String} {arms : List Arm} {a : Arm} :
    KeywordArm k arms a ↔ (a ∈ arms ∧ a.selector = .keyword k) ∨
      ((∀ b ∈ arms, b.selector ≠ .keyword k) ∧ a ∈ arms ∧ a.selector = .keyword "other") := by
  constructor
  · rintro (⟨ha, hs⟩ | ⟨hnone, ha, hs⟩)
    · exact .inl ⟨ha, hs⟩
    · exact .inr ⟨hnone, ha, hs⟩
  · rintro (⟨ha, hs⟩ | ⟨hnone, ha, hs⟩)
    · exact .named ha hs
    · exact .other hnone ha hs

theorem pluralArm_iff {rules : List Plural.Rule} {v o : Float} {arms : List Arm} {a : Arm} :
    PluralArm rules v o arms a ↔ (a ∈ arms ∧ ∃ x, a.selector = .exact x ∧ (x == v) = true) ∨
      ((∀ b ∈ arms, ∀ x, b.selector = .exact x → (x == v) = false) ∧
        KeywordArm (Plural.select rules (v - o)).name arms a) := by
  constructor
  · rintro (⟨ha, hs, hx⟩ | ⟨hnone, hk⟩)
    · exact .inl ⟨ha, _, hs, hx⟩
    · exact .inr ⟨hnone, hk⟩
  · rintro (⟨ha, x, hs, hx⟩ | ⟨hnone, hk⟩)
    · exact .exact ha hs hx
    · exact .category hnone hk

theorem KeywordArm.mem {k : String} {arms : List Arm} {a : Arm} (h : KeywordArm k arms a) :
    a ∈ arms := by
  cases h with
  | named ha _ => exact ha
  | other _ ha _ => exact ha

theorem PluralArm.mem {rules : List Plural.Rule} {v o : Float} {arms : List Arm} {a : Arm}
    (h : PluralArm rules v o arms a) : a ∈ arms := by
  cases h with
  | exact ha _ _ => exact ha
  | category _ hk => exact hk.mem

/-! ## Arms with different selectors -/

theorem Selector.isKeyword_iff {k : String} {s : Selector} :
    s.isKeyword k = true ↔ s = .keyword k := by
  cases s <;> simp [Selector.isKeyword]

theorem Selector.isExact_iff {v : Float} {s : Selector} :
    s.isExact v = true ↔ ∃ x, s = .exact x ∧ (x == v) = true := by
  cases s <;> simp [Selector.isExact]

theorem Selector.same_comm (s t : Selector) : s.same t = t.same s := by
  cases s <;> cases t <;> simp only [Selector.same]
  · exact Bool.eq_iff_iff.2 ⟨Decimal.float_beq_symm, Decimal.float_beq_symm⟩
  · rw [Bool.eq_iff_iff, beq_iff_eq, beq_iff_eq]
    exact eq_comm

theorem ArmsShaped.eq_of_same {arms : List Arm} (h : ArmsShaped arms) {a b : Arm} (ha : a ∈ arms)
    (hb : b ∈ arms) (hs : a.selector.same b.selector = true) : a = b := by
  by_contra hne
  have hsymm : Std.Symm fun a b : Arm => a.selector.same b.selector = false :=
    ⟨fun x y hxy => by rwa [Selector.same_comm]⟩
  have hdiff : a.selector.same b.selector = false := h.2.1.forall ha hb hne
  rw [hs] at hdiff
  cases hdiff

theorem ArmsShaped.eq_of_isKeyword {arms : List Arm} (h : ArmsShaped arms) {k : String}
    {a b : Arm} (ha : a ∈ arms) (hb : b ∈ arms) (hka : a.selector.isKeyword k = true)
    (hkb : b.selector.isKeyword k = true) : a = b := by
  apply h.eq_of_same ha hb
  rw [Selector.isKeyword_iff.1 hka, Selector.isKeyword_iff.1 hkb]
  simp [Selector.same]

theorem ArmsShaped.eq_of_isExact {arms : List Arm} (h : ArmsShaped arms) {v : Float}
    {a b : Arm} (ha : a ∈ arms) (hb : b ∈ arms) (hxa : a.selector.isExact v = true)
    (hxb : b.selector.isExact v = true) : a = b := by
  obtain ⟨x, hx, hxv⟩ := Selector.isExact_iff.1 hxa
  obtain ⟨y, hy, hyv⟩ := Selector.isExact_iff.1 hxb
  apply h.eq_of_same ha hb
  rw [hx, hy]
  exact Decimal.float_beq_trans hxv (Decimal.float_beq_symm hyv)

theorem find?_eq_some_iff_of_unique {α : Type} {p : α → Bool} {l : List α} {a : α}
    (hu : ∀ b ∈ l, ∀ c ∈ l, p b = true → p c = true → b = c) :
    l.find? p = some a ↔ a ∈ l ∧ p a = true := by
  constructor
  · intro h
    exact ⟨List.mem_of_find?_eq_some h, List.find?_some h⟩
  · rintro ⟨ha, hp⟩
    cases hf : l.find? p with
    | none => exact absurd hp (by simpa using List.find?_eq_none.1 hf a ha)
    | some b => rw [hu b (List.mem_of_find?_eq_some hf) a ha (List.find?_some hf) hp]

theorem find?_keyword_eq_some_iff {arms : List Arm} (h : ArmsShaped arms) {k : String}
    {a : Arm} : arms.find? (·.selector.isKeyword k) = some a ↔
      a ∈ arms ∧ a.selector = .keyword k := by
  rw [find?_eq_some_iff_of_unique fun b hb c hc => h.eq_of_isKeyword hb hc,
    Selector.isKeyword_iff]

theorem find?_keyword_eq_none_iff {arms : List Arm} {k : String} :
    arms.find? (·.selector.isKeyword k) = none ↔ ∀ b ∈ arms, b.selector ≠ .keyword k := by
  simp [List.find?_eq_none, Selector.isKeyword_iff]

/-- on the arms of a choice that was read, evaluation finds exactly the arm for a key -/
theorem keywordSearch_eq_some_iff {arms : List Arm} (h : ArmsShaped arms) {k : String}
    {a : Arm} : keywordSearch k arms = some a ↔ KeywordArm k arms a := by
  rw [keywordSearch, Option.or_eq_some_iff, find?_keyword_eq_some_iff h,
    find?_keyword_eq_some_iff h, find?_keyword_eq_none_iff, keywordArm_iff]

/-- on the arms of a choice that was read, evaluation finds exactly the arm of a plural
choice -/
theorem pluralSearch_eq_some_iff {rules : List Plural.Rule} {v o : Float} {arms : List Arm}
    (h : ArmsShaped arms) {a : Arm} :
    pluralSearch rules v o arms = some a ↔ PluralArm rules v o arms a := by
  have hexact : arms.find? (·.selector.isExact v) = some a ↔
      a ∈ arms ∧ ∃ x, a.selector = .exact x ∧ (x == v) = true := by
    rw [find?_eq_some_iff_of_unique fun b hb c hc => h.eq_of_isExact hb hc,
      Selector.isExact_iff]
  have hnone : arms.find? (·.selector.isExact v) = none ↔
      ∀ b ∈ arms, ∀ x, b.selector = .exact x → (x == v) = false := by
    simp [List.find?_eq_none, Selector.isExact_iff]
  rw [pluralSearch, Option.or_eq_some_iff, hexact, hnone, keywordSearch_eq_some_iff h,
    pluralArm_iff]

theorem keywordSearch_ne_none {arms : List Arm} (h : ArmsShaped arms) (k : String) :
    keywordSearch k arms ≠ none := by
  obtain ⟨a, ha, hs⟩ := h.2.2
  have hother : arms.find? (·.selector.isKeyword "other") ≠ none := by
    rw [Ne, find?_keyword_eq_none_iff]
    exact fun hall => hall a ha hs
  simp [keywordSearch, hother]

theorem pluralSearch_ne_none {arms : List Arm} (h : ArmsShaped arms) (rules : List Plural.Rule)
    (v o : Float) : pluralSearch rules v o arms ≠ none := by
  simp [pluralSearch, keywordSearch_ne_none h]

theorem KeywordArm.existsUnique {arms : List Arm} (h : ArmsShaped arms) (k : String) :
    ∃! a, KeywordArm k arms a := by
  obtain ⟨a, ha⟩ := Option.ne_none_iff_exists'.1 (keywordSearch_ne_none h k)
  refine ⟨a, (keywordSearch_eq_some_iff h).1 ha, fun b (hb : KeywordArm k arms b) => ?_⟩
  rw [← keywordSearch_eq_some_iff h, ha] at hb
  exact (Option.some.inj hb).symm

theorem PluralArm.existsUnique {rules : List Plural.Rule} {arms : List Arm} (h : ArmsShaped arms)
    (v o : Float) : ∃! a, PluralArm rules v o arms a := by
  obtain ⟨a, ha⟩ := Option.ne_none_iff_exists'.1 (pluralSearch_ne_none h rules v o)
  refine ⟨a, (pluralSearch_eq_some_iff h).1 ha, fun b (hb : PluralArm rules v o arms b) => ?_⟩
  rw [← pluralSearch_eq_some_iff h, ha] at hb
  exact (Option.some.inj hb).symm

/-! ## Evaluation through the searches -/

theorem evalFirst_eq_map_find? (c : Context) (pound : Option Float) (test : Selector → Bool) :
    ∀ arms : List Arm, evalFirst c pound test arms =
      (arms.find? (test ·.selector)).map (evalMessage c pound ·.message)
  | [] => rfl
  | .mk s m :: rest => by
    by_cases ht : test s = true
    · simp [evalFirst, ht, Arm.selector, Arm.message]
    · simp [evalFirst, ht, Arm.selector, evalFirst_eq_map_find? c pound test rest]

theorem evalMessage_cons (c : Context) (pound : Option Float) (e : Element) (es : List Element) :
    evalMessage c pound (e :: es) =
      evalElement c pound e >>= fun a => (a ++ ·) <$> evalMessage c pound es := by
  simp only [evalMessage, bind_pure_comp]

theorem evalElement_plural (c : Context) (pound : Option Float) (n : String) (kind : Plural.Kind)
    (o : Float) (arms : List Arm) :
    evalElement c pound (.plural n kind o arms) =
      match c.numberArg n with
      | .error e => .error e
      | .ok v =>
        match pluralSearch (Plural.rulesFor c.locale kind) v o arms with
        | some a => evalMessage c (some (v - o)) a.message
        | none => .error (.noMatchingArm n) := by
  simp only [evalElement, evalFirst_eq_map_find?, Plural.categoryFor]
  cases c.numberArg n with
  | error e => rfl
  | ok v =>
    simp only [pluralSearch, keywordSearch]
    cases arms.find? (·.selector.isExact v) <;>
      cases arms.find? (·.selector.isKeyword (Plural.select (Plural.rulesFor c.locale kind)
        (v - o)).name) <;>
      cases arms.find? (·.selector.isKeyword "other") <;> rfl

theorem evalElement_select (c : Context) (pound : Option Float) (n : String) (arms : List Arm) :
    evalElement c pound (.select n arms) =
      match c.arg n with
      | .error e => .error e
      | .ok s =>
        match keywordSearch s.display arms with
        | some a => evalMessage c pound a.message
        | none => .error (.noMatchingArm n) := by
  simp only [evalElement, evalFirst_eq_map_find?]
  cases c.arg n with
  | error e => rfl
  | ok s =>
    simp only [keywordSearch]
    cases arms.find? (·.selector.isKeyword s.display) <;>
      cases arms.find? (·.selector.isKeyword "other") <;> rfl

/-! ## The rules -/

mutual

/-- writing a message with `#` standing for `pound` gives `r`: the text of every element joined,
or the error of the first element that fails -/
inductive Writes (c : Context) : Option Float → List Element → Except FormatError String → Prop
  | nil {p : Option Float} : Writes c p [] (.ok "")
  | fail {p : Option Float} {e : Element} {es : List Element} {err : FormatError} :
      WritesElement c p e (.error err) → Writes c p (e :: es) (.error err)
  | cons {p : Option Float} {e : Element} {es : List Element} {a : String}
      {r : Except FormatError String} :
      WritesElement c p e (.ok a) → Writes c p es r → Writes c p (e :: es) ((a ++ ·) <$> r)

/-- writing one element with `#` standing for `pound` gives `r`. A choice writes the message of
its arm; a plural choice writes it with `#` standing for its value less its offset. -/
inductive WritesElement (c : Context) : Option Float → Element → Except FormatError String → Prop
  | literal {p : Option Float} {t : String} : WritesElement c p (.literal t) (.ok t)
  | argument {p : Option Float} {n : String} :
      WritesElement c p (.argument n) (Scalar.display <$> c.arg n)
  | number {p : Option Float} {n : String} {style : Option String} :
      WritesElement c p (.number n style)
        ((fun x => formatNumber c.locale x (NumberStyle.ofStyle style)) <$> c.numberArg n)
  | date {p : Option Float} {n : String} {style : Option String} :
      WritesElement c p (.date n style)
        ((fun t => formatDate c.locale t (DateStyle.ofStyle style)) <$> c.dateArg n)
  | time {p : Option Float} {n : String} {style : Option String} :
      WritesElement c p (.time n style)
        ((fun t => formatTime c.locale t (DateStyle.ofStyle style)) <$> c.dateArg n)
  | pound {x : Float} : WritesElement c (some x) .pound (.ok (formatNumber c.locale x .decimal))
  | poundOutside : WritesElement c none .pound (.ok "#")
  | pluralUnread {p : Option Float} {n : String} {kind : Plural.Kind} {o : Float}
      {arms : List Arm} {err : FormatError} :
      c.numberArg n = .error err → WritesElement c p (.plural n kind o arms) (.error err)
  | plural {p : Option Float} {n : String} {kind : Plural.Kind} {o v : Float} {arms : List Arm}
      {a : Arm} {r : Except FormatError String} :
      c.numberArg n = .ok v → PluralArm (Plural.rulesFor c.locale kind) v o arms a →
      Writes c (some (v - o)) a.message r → WritesElement c p (.plural n kind o arms) r
  | selectUnread {p : Option Float} {n : String} {arms : List Arm} {err : FormatError} :
      c.arg n = .error err → WritesElement c p (.select n arms) (.error err)
  | select {p : Option Float} {n : String} {arms : List Arm} {s : Scalar} {a : Arm}
      {r : Except FormatError String} :
      c.arg n = .ok s → KeywordArm s.display arms a → Writes c p a.message r →
      WritesElement c p (.select n arms) r

end

theorem shapedElements_of_mem {parent : Parent} {arms : List Arm} (h : ShapedArms parent arms)
    {a : Arm} (ha : a ∈ arms) : ShapedElements parent a.message :=
  ((shapedArms_iff.1 h a ha).2).1

/-! ## Evaluation follows the rules -/

mutual

theorem writes_evalMessage (c : Context) {parent : Parent} :
    ∀ (m : List Element), ShapedElements parent m → ∀ p, Writes c p m (evalMessage c p m)
  | [], _, p => .nil
  | e :: es, ⟨he, hes⟩, p => by
    rw [evalMessage_cons]
    have hw := writes_evalElement c e he p
    cases hx : evalElement c p e with
    | error err =>
      rw [hx] at hw
      exact .fail hw
    | ok a =>
      rw [hx] at hw
      exact .cons hw (writes_evalMessage c es hes p)

theorem writes_evalElement (c : Context) {parent : Parent} :
    ∀ (e : Element), e.Shaped parent → ∀ p, WritesElement c p e (evalElement c p e)
  | .literal t, _, p => .literal
  | .argument n, _, p => by
    simp only [evalElement, bind_pure_comp]
    exact .argument
  | .number n style, _, p => by
    simp only [evalElement, bind_pure_comp]
    exact .number
  | .date n style, _, p => by
    simp only [evalElement, bind_pure_comp]
    exact .date
  | .time n style, _, p => by
    simp only [evalElement, bind_pure_comp]
    exact .time
  | .plural n kind o arms, ⟨_, _, harms, hshaped⟩, p => by
    rw [evalElement_plural]
    cases hv : c.numberArg n with
    | error err => exact .pluralUnread hv
    | ok v =>
      obtain ⟨a, ha⟩ := Option.ne_none_iff_exists'.1
        (pluralSearch_ne_none harms (Plural.rulesFor c.locale kind) v o)
      have hpick := (pluralSearch_eq_some_iff harms).1 ha
      simp only [ha]
      exact .plural hv hpick (writes_evalArms c arms hshaped a hpick.mem (some (v - o)))
  | .select n arms, ⟨_, harms, hshaped⟩, p => by
    rw [evalElement_select]
    cases hs : c.arg n with
    | error err => exact .selectUnread hs
    | ok s =>
      obtain ⟨a, ha⟩ := Option.ne_none_iff_exists'.1 (keywordSearch_ne_none harms s.display)
      have hpick := (keywordSearch_eq_some_iff harms).1 ha
      simp only [ha]
      exact .select hs hpick (writes_evalArms c arms hshaped a hpick.mem p)
  | .pound, _, p => by
    cases p with
    | none => exact .poundOutside
    | some x => exact .pound

theorem writes_evalArms (c : Context) {parent : Parent} :
    ∀ (arms : List Arm), ShapedArms parent arms →
      ∀ a ∈ arms, ∀ p, Writes c p a.message (evalMessage c p a.message)
  | [], _ => by simp
  | .mk sel m :: rest, ⟨_, hm, _, hrest⟩ => by
    intro a ha p
    rcases List.mem_cons.1 ha with rfl | ha
    · exact writes_evalMessage c m hm p
    · exact writes_evalArms c rest hrest a ha p

end

/-! ## The rules allow nothing else -/

mutual

theorem Writes.evalMessage_eq {c : Context} {parent : Parent} {p : Option Float}
    {m : List Element} {r : Except FormatError String} :
    Writes c p m r → ShapedElements parent m → evalMessage c p m = r
  | .nil, _ => rfl
  | .fail he, ⟨hs, _⟩ => by
    rw [evalMessage_cons, he.evalElement_eq hs]
    rfl
  | .cons he hes, ⟨hs, hss⟩ => by
    rw [evalMessage_cons, he.evalElement_eq hs, hes.evalMessage_eq hss]
    rfl

theorem WritesElement.evalElement_eq {c : Context} {parent : Parent} {p : Option Float}
    {e : Element} {r : Except FormatError String} :
    WritesElement c p e r → e.Shaped parent → evalElement c p e = r
  | .literal, _ => rfl
  | .argument, _ => by simp only [evalElement, bind_pure_comp]
  | .number, _ => by simp only [evalElement, bind_pure_comp]
  | .date, _ => by simp only [evalElement, bind_pure_comp]
  | .time, _ => by simp only [evalElement, bind_pure_comp]
  | .pound, _ => rfl
  | .poundOutside, _ => rfl
  | .pluralUnread hv, _ => by rw [evalElement_plural, hv]
  | .plural hv hpick hw, ⟨_, _, harms, hshaped⟩ => by
    rw [evalElement_plural, hv]
    simp only [(pluralSearch_eq_some_iff harms).2 hpick]
    exact hw.evalMessage_eq (shapedElements_of_mem hshaped hpick.mem)
  | .selectUnread hs, _ => by rw [evalElement_select, hs]
  | .select hs hpick hw, ⟨_, harms, hshaped⟩ => by
    rw [evalElement_select, hs]
    simp only [(keywordSearch_eq_some_iff harms).2 hpick]
    exact hw.evalMessage_eq (shapedElements_of_mem hshaped hpick.mem)

end

/-- Evaluating a message that was read does what the rules say. Its outcome is the one `Writes`
allows: texts joined left to right, the first failing element's error, the value of an argument as
text or in its style, and for a choice the message of the arm `PluralArm` or `KeywordArm` picks,
with `#` the value less the offset of the nearest plural choice. Every choice of a message that
was read picks exactly one arm; a number's category is `other` when it is not finite and is that of
its magnitude otherwise. -/
theorem evaluate_iff_writes {t : String} {m : Msg} (h : parse t = .ok m) (l : Locale)
    (args : Table Scalar) :
    (∀ r, evaluate m l args = r ↔ Writes ⟨l, args⟩ none m r) ∧
    (∀ rules v o arms, ArmsShaped arms → ∃! a, PluralArm rules v o arms a) ∧
    (∀ k arms, ArmsShaped arms → ∃! a, KeywordArm k arms a) ∧
    (∀ rules x, x.isFinite = false → Plural.select rules x = .other) ∧
    (∀ rules x, Plural.select rules x.abs = Plural.select rules x) := by
  have hshaped : ShapedElements .root m := (wellFormed_of_parse h).1.1
  refine ⟨fun r => ⟨?_, fun hw => hw.evalMessage_eq hshaped⟩,
    fun rules v o arms harms => PluralArm.existsUnique harms v o,
    fun k arms harms => KeywordArm.existsUnique harms k,
    fun rules x hx => Plural.select_of_not_finite rules hx, Plural.select_abs⟩
  rintro rfl
  exact writes_evalMessage ⟨l, args⟩ m hshaped none

/-- A choice by gender, read back from its text, writes the arm its value names. -/
theorem gender_choice_writes_named_arm :
    let arms : List Arm := [.mk (.keyword "male") [.literal "He"],
      .mk (.keyword "female") [.literal "She"], .mk (.keyword "other") [.literal "They"]]
    let m : Msg := [.select "gender" arms, .literal " liked this"]
    parse (Msg.print m) = .ok m ∧
      evaluate m ⟨"en"⟩ (Table.empty.insert "gender" (.str "female")) = .ok "She liked this" := by
  intro arms m
  have hwf : m.WellFormed := by
    have harms : ArmsShaped arms :=
      ⟨by simp [arms], by simp [arms, Arm.selector, Selector.same], by simp [arms, Arm.selector]⟩
    refine ⟨⟨?_, by simp [m, Apart, Element.isLiteral]⟩, by decide⟩
    simp only [m, arms, ShapedElements, Element.Shaped, ShapedArms, Selector.Allowed, and_true]
    exact ⟨⟨isToken_of_isAlpha (by simp) (by simp), harms,
      ⟨isToken_of_isAlpha (by simp) (by simp), by simp⟩, by simp, by simp,
      ⟨isToken_of_isAlpha (by simp) (by simp), by simp⟩, by simp, by simp,
      ⟨isToken_of_isAlpha (by simp) (by simp), by simp⟩, by simp, by simp⟩, by simp⟩
  have hp := parse_print hwf
  have harg : Context.arg ⟨⟨"en"⟩, Table.empty.insert "gender" (.str "female")⟩ "gender" =
      .ok (.str "female") := rfl
  have hsel : WritesElement ⟨⟨"en"⟩, Table.empty.insert "gender" (.str "female")⟩ none
      (.select "gender" arms) (.ok ("She" ++ "")) :=
    .select harg (.named (a := .mk (.keyword "female") [.literal "She"]) (by simp [arms]) rfl)
      (.cons .literal .nil)
  have hw : Writes ⟨⟨"en"⟩, Table.empty.insert "gender" (.str "female")⟩ none m
      (.ok (("She" ++ "") ++ (" liked this" ++ ""))) :=
    .cons hsel (.cons .literal .nil)
  have hstr : ("She" ++ "") ++ (" liked this" ++ "") = "She liked this" := by decide
  rw [hstr] at hw
  exact ⟨hp, ((evaluate_iff_writes hp _ _).1 _).2 hw⟩

end Message

end Phrasebook
