import Phrasebook.Proofs.Message.RoundTrip
import Phrasebook.Message.Eval

/-!
# Evaluating messages that were read

A message the reader returns fails to evaluate only because of its arguments: every choice in
it has an `other` arm, at every depth, so an arm is always found.

* `Use`                 how an element reads its argument: as text, as a number or as an instant;
* `Element.uses`, `messageUses`, `armsUses`
                        the arguments of a message with their uses, at every depth;
* `Use.Fits`            a value fits a use: any value as text, one with a number for a number,
                        one naming an instant for an instant;
* `FormatError.AboutArgument names`
                        an error for a missing value, a value that is not a number or one that
                        is not an instant, of one of `names`;
* `Outcome args uses r` what evaluating with `args` something that reads `uses` may give: only
                        errors about those arguments, and a result whenever they all fit.

Every element, message and arm of a shaped message has its `Outcome`; the proof is one induction
over the message, mutual with its elements and arms, with `Outcome.bind` carrying the outcome
through the element loop. The main statement is `evaluate_fails_only_for_arguments`.
-/

namespace Phrasebook.Message

/-- how an element reads its argument -/
inductive Use where
  | text
  | number
  | instant
  deriving DecidableEq

/-- a value fits a use: any value may be read as text, a number needs a value that is a number,
and an instant needs a value that names one -/
def Use.Fits : Use → Scalar → Prop
  | .text, _ => True
  | .number, s => s.asNumber.isSome
  | .instant, s => (Context.instantOf s).isSome

mutual

/-- the arguments an element reads with their uses, at any depth -/
def Element.uses : Element → List (String × Use)
  | .literal _ => []
  | .argument n => [(n, .text)]
  | .number n _ => [(n, .number)]
  | .date n _ => [(n, .instant)]
  | .time n _ => [(n, .instant)]
  | .plural n _ _ arms => (n, .number) :: armsUses arms
  | .select n arms => (n, .text) :: armsUses arms
  | .pound => []

/-- the arguments the messages of some arms read -/
def armsUses : List Arm → List (String × Use)
  | [] => []
  | .mk _ m :: rest => messageUses m ++ armsUses rest

/-- the arguments a message reads with their uses, at any depth -/
def messageUses : List Element → List (String × Use)
  | [] => []
  | e :: rest => e.uses ++ messageUses rest

end

theorem messageUses_subset_armsUses : ∀ {arms : List Arm} {a : Arm}, a ∈ arms →
    messageUses a.message ⊆ armsUses arms
  | .mk _ m :: rest, a, ha => by
    rcases List.mem_cons.1 ha with rfl | ha
    · exact List.subset_append_left _ _
    · exact List.Subset.trans (messageUses_subset_armsUses ha) (List.subset_append_right _ _)

def FormatError.AboutArgument (names : List String) : FormatError → Prop
  | .missingValue n => n ∈ names
  | .notANumber n _ => n ∈ names
  | .notADate n _ => n ∈ names
  | .malformed _ | .noMatchingArm _ => False

theorem FormatError.AboutArgument.mono {names names' : List String} {e : FormatError}
    (h : e.AboutArgument names) (hsub : names ⊆ names') : e.AboutArgument names' := by
  cases e <;> simp only [AboutArgument] at h ⊢ <;> exact hsub h

def Fit (args : Table Scalar) (uses : List (String × Use)) : Prop :=
  ∀ u ∈ uses, ∃ s, args.get? u.1 = some s ∧ u.2.Fits s

theorem Fit.mono {args : Table Scalar} {uses uses' : List (String × Use)} (h : Fit args uses')
    (hsub : uses ⊆ uses') : Fit args uses := fun u hu => h u (hsub hu)

/-! ## Outcomes -/

/-- what evaluating with `args` something that reads `uses` may give: an error only about one of
those arguments, and a result whenever all of them fit -/
structure Outcome {α : Type} (args : Table Scalar) (uses : List (String × Use))
    (r : Except FormatError α) : Prop where
  error : ∀ e, r = .error e → e.AboutArgument (uses.map Prod.fst)
  ok : Fit args uses → ∃ out, r = .ok out

section
variable {α β : Type} {args : Table Scalar}

theorem Outcome.mono {uses uses' : List (String × Use)} {r : Except FormatError α}
    (h : Outcome args uses r) (hsub : uses ⊆ uses') : Outcome args uses' r where
  error e he := (h.error e he).mono (List.map_subset _ hsub)
  ok hfit := h.ok (hfit.mono hsub)

theorem outcome_ok (uses : List (String × Use)) (a : α) : Outcome args uses (.ok a) :=
  ⟨fun _ he => (by cases he), fun _ => ⟨a, rfl⟩⟩

theorem Outcome.of_error {uses : List (String × Use)} {e : FormatError}
    (h : Outcome args uses (Except.error e : Except FormatError α)) :
    Outcome args uses (Except.error e : Except FormatError β) where
  error e' he' := by
    cases he'
    exact h.error e rfl
  ok hfit := by
    obtain ⟨_, hout⟩ := h.ok hfit
    cases hout

/-- a failure of the first step is the failure of the whole; otherwise the second step decides -/
theorem Outcome.bind {uses₁ uses₂ : List (String × Use)} {r : Except FormatError α}
    {f : α → Except FormatError β} (hr : Outcome args uses₁ r)
    (hf : ∀ a, r = .ok a → Outcome args uses₂ (f a)) :
    Outcome args (uses₁ ++ uses₂) (r >>= f) := by
  cases hres : r with
  | error e =>
    rw [hres] at hr
    exact (hr.mono (List.subset_append_left uses₁ uses₂)).of_error
  | ok a => exact (hf a hres).mono (List.subset_append_right uses₁ uses₂)

theorem Outcome.bind_pure {uses : List (String × Use)} {r : Except FormatError α} (f : α → β)
    (h : Outcome args uses r) : Outcome args uses (r >>= fun a => pure (f a)) := by
  have hb := h.bind fun a _ => outcome_ok [] (f a)
  rw [List.append_nil] at hb
  exact hb

end

/-! ## Reading arguments -/

namespace Context

theorem arg_outcome (c : Context) (n : String) : Outcome c.args [(n, .text)] (c.arg n) := by
  constructor
  · intro e he
    cases hget : c.args.get? n <;> simp [arg, hget] at he
    subst he
    simp [FormatError.AboutArgument]
  · intro hfit
    obtain ⟨s, hs, -⟩ := hfit _ List.mem_cons_self
    exact ⟨s, by simp [arg, hs]⟩

theorem convertedArg_outcome (c : Context) (n : String) {β : Type} (u : Use)
    {convert : Scalar → Except FormatError β}
    (h : ∀ s, (∀ e, convert s = .error e → e.AboutArgument [n]) ∧
      (u.Fits s → ∃ x, convert s = .ok x)) :
    Outcome c.args [(n, u)] (c.arg n >>= convert) := by
  cases hget : c.args.get? n with
  | none =>
    have harg : c.arg n = .error (.missingValue n) := by simp [arg, hget]
    rw [harg]
    refine ⟨fun e he => ?_, fun hfit => ?_⟩
    · cases he
      simp [FormatError.AboutArgument]
    · obtain ⟨s, hs, -⟩ := hfit _ List.mem_cons_self
      rw [hget] at hs
      cases hs
  | some s =>
    have harg : c.arg n = .ok s := by simp [arg, hget]
    rw [harg]
    refine ⟨(h s).1, fun hfit => (h s).2 ?_⟩
    obtain ⟨s', hs', hu⟩ := hfit _ List.mem_cons_self
    rw [hget] at hs'
    cases hs'
    exact hu

theorem numberArg_outcome (c : Context) (n : String) :
    Outcome c.args [(n, .number)] (c.numberArg n) :=
  c.convertedArg_outcome n .number fun s => by
    cases hx : s.asNumber with
    | none =>
      refine ⟨fun e he => ?_, fun hu => by simp [Use.Fits, hx] at hu⟩
      simp only [throw, throwThe, MonadExceptOf.throw, Except.error.injEq] at he
      simp [← he, FormatError.AboutArgument]
    | some x =>
      exact ⟨fun e he => by simp [pure, Except.pure] at he, fun _ => ⟨x, rfl⟩⟩

theorem dateArg_outcome (c : Context) (n : String) :
    Outcome c.args [(n, .instant)] (c.dateArg n) :=
  c.convertedArg_outcome n .instant fun s => by
    cases hx : instantOf s with
    | none =>
      refine ⟨fun e he => ?_, fun hu => by simp [Use.Fits, hx] at hu⟩
      simp only [throw, throwThe, MonadExceptOf.throw, Except.error.injEq] at he
      simp [← he, FormatError.AboutArgument]
    | some t =>
      exact ⟨fun e he => by simp [pure, Except.pure] at he, fun _ => ⟨t, rfl⟩⟩

end Context

/-! ## Choosing an arm -/

theorem evalFirst_eq_some {c : Context} {pound : Option Float} {test : Selector → Bool} :
    ∀ {arms : List Arm} {r : Except FormatError String}, evalFirst c pound test arms = some r →
      ∃ a ∈ arms, r = evalMessage c pound a.message
  | [], _, h => by simp [evalFirst] at h
  | .mk sel m :: rest, r, h => by
    by_cases ht : test sel = true
    · simp only [evalFirst, ht, if_true, Option.some.injEq] at h
      exact ⟨.mk sel m, List.mem_cons_self, h.symm⟩
    · simp only [evalFirst, ht, Bool.false_eq_true, if_false] at h
      obtain ⟨a, ha, hr⟩ := evalFirst_eq_some h
      exact ⟨a, List.mem_cons_of_mem _ ha, hr⟩

theorem evalFirst_other_ne_none {c : Context} {pound : Option Float} :
    ∀ {arms : List Arm}, (∃ a ∈ arms, a.selector = .keyword "other") →
      evalFirst c pound (Selector.isKeyword "other") arms ≠ none
  | [], ⟨_, ha, _⟩ => by simp at ha
  | .mk sel m :: rest, ⟨a, ha, hsel⟩ => by
    by_cases ht : sel.isKeyword "other" = true
    · simp [evalFirst, ht]
    · simp only [evalFirst, ht, Bool.false_eq_true, if_false]
      refine evalFirst_other_ne_none ⟨a, ?_, hsel⟩
      rcases List.mem_cons.1 ha with rfl | ha
      · simp only [Arm.selector] at hsel
        subst hsel
        simp [Selector.isKeyword] at ht
      · exact ha

theorem Outcome.of_evalFirst {c : Context} {pound : Option Float} {test : Selector → Bool}
    {arms : List Arm} {r : Except FormatError String}
    (harms : ∀ a ∈ arms, Outcome c.args (messageUses a.message) (evalMessage c pound a.message))
    (h : evalFirst c pound test arms = some r) : Outcome c.args (armsUses arms) r := by
  obtain ⟨a, ha, rfl⟩ := evalFirst_eq_some h
  exact (harms a ha).mono (messageUses_subset_armsUses ha)

/-! ## Every shaped message has its outcome -/

mutual

theorem evalMessage_outcome (c : Context) {parent : Parent} (pound : Option Float) :
    ∀ (m : List Element), ShapedElements parent m →
      Outcome c.args (messageUses m) (evalMessage c pound m)
  | [], _ => outcome_ok _ _
  | e :: es, ⟨he, hes⟩ => by
    have h := (evalElement_outcome c pound e he).bind fun a _ =>
      (evalMessage_outcome c pound es hes).bind fun b _ => outcome_ok [] (a ++ b)
    rw [List.append_nil] at h
    exact h

theorem evalElement_outcome (c : Context) {parent : Parent} (pound : Option Float) :
    ∀ (e : Element), e.Shaped parent → Outcome c.args e.uses (evalElement c pound e)
  | .literal t, _ => outcome_ok _ _
  | .argument n, _ => (c.arg_outcome n).bind_pure _
  | .number n style, _ => (c.numberArg_outcome n).bind_pure _
  | .date n style, _ => (c.dateArg_outcome n).bind_pure _
  | .time n style, _ => (c.dateArg_outcome n).bind_pure _
  | .plural n kind offset arms, ⟨_, _, ⟨_, _, hother⟩, hshaped⟩ => by
    have hsub : [(n, Use.number)] ⊆ (n, .number) :: armsUses arms := by simp
    simp only [evalElement, Element.uses]
    cases hv : c.numberArg n with
    | error e =>
      have h := c.numberArg_outcome n
      rw [hv] at h
      exact (h.mono hsub).of_error
    | ok v =>
      have harms := evalArms_outcome c (some (v - offset)) arms hshaped
      have htail : armsUses arms ⊆ (n, .number) :: armsUses arms := List.subset_cons_self _ _
      simp only
      split
      · next r hr => exact (Outcome.of_evalFirst harms hr).mono htail
      split
      · next r hr => exact (Outcome.of_evalFirst harms hr).mono htail
      split
      · next r hr => exact (Outcome.of_evalFirst harms hr).mono htail
      · next hnone => exact absurd hnone (evalFirst_other_ne_none hother)
  | .select n arms, ⟨_, ⟨_, _, hother⟩, hshaped⟩ => by
    have hsub : [(n, Use.text)] ⊆ (n, .text) :: armsUses arms := by simp
    simp only [evalElement, Element.uses]
    cases hs : c.arg n with
    | error e =>
      have h := c.arg_outcome n
      rw [hs] at h
      exact (h.mono hsub).of_error
    | ok s =>
      have harms := evalArms_outcome c pound arms hshaped
      have htail : armsUses arms ⊆ (n, .text) :: armsUses arms := List.subset_cons_self _ _
      simp only
      split
      · next r hr => exact (Outcome.of_evalFirst harms hr).mono htail
      split
      · next r hr => exact (Outcome.of_evalFirst harms hr).mono htail
      · next hnone => exact absurd hnone (evalFirst_other_ne_none hother)
  | .pound, _ => by
    cases pound <;> exact outcome_ok _ _

theorem evalArms_outcome (c : Context) {parent : Parent} (pound : Option Float) :
    ∀ (arms : List Arm), ShapedArms parent arms →
      ∀ a ∈ arms, Outcome c.args (messageUses a.message) (evalMessage c pound a.message)
  | [], _ => by simp
  | .mk sel m :: rest, ⟨_, hm, _, hrest⟩ => by
    intro a ha
    rcases List.mem_cons.1 ha with rfl | ha
    · exact evalMessage_outcome c pound m hm
    · exact evalArms_outcome c pound rest hrest a ha

end

/-- Evaluating a message that was read fails only because of its arguments. No arm is ever
missing; every error is a missing value, a value that is not a number, or one that names no
instant, of an argument the message reads; and when every argument the message reads has a value
fitting its use, evaluation succeeds. -/
theorem evaluate_fails_only_for_arguments {t : String} {m : Msg} (h : parse t = .ok m)
    (l : Locale) (args : Table Scalar) :
    (∀ n, evaluate m l args ≠ .error (.noMatchingArm n)) ∧
    (∀ e, evaluate m l args = .error e → e.AboutArgument ((messageUses m).map Prod.fst)) ∧
    (Fit args (messageUses m) → ∃ out, evaluate m l args = .ok out) := by
  have hout : Outcome args (messageUses m) (evaluate m l args) :=
    evalMessage_outcome ⟨l, args⟩ none m (wellFormed_of_parse h).1.1
  refine ⟨fun n hn => ?_, hout.error, hout.ok⟩
  simpa [FormatError.AboutArgument] using hout.error _ hn


/-- A greeting that chooses by value, with a number in its `other` arm, is read back from its
text, and evaluating it with only the value of the choice fails only for want of the number. -/
theorem choice_evaluation_needs_only_arguments :
    let m : Msg := [.literal "Hi ", .select "g"
      [.mk (.keyword "female") [.literal "her"], .mk (.keyword "other") [.number "n" none]]]
    let args : Table Scalar := Table.empty.insert "g" (.str "x")
    parse (Msg.print m) = .ok m ∧
      (∀ n, evaluate m ⟨"en"⟩ args ≠ .error (.noMatchingArm n)) ∧
      (∀ e, evaluate m ⟨"en"⟩ args = .error e →
        e.AboutArgument ((messageUses m).map Prod.fst)) := by
  intro m args
  have hwf : m.WellFormed := by
    refine ⟨⟨?_, by simp [m, Apart, Element.isLiteral]⟩, by decide⟩
    simp only [m, ShapedElements, Element.Shaped, ShapedArms, Selector.Allowed, ArmsShaped,
      and_true]
    refine ⟨by simp, isToken_of_isAlpha (by simp) (by simp),
      ⟨by simp, by simp [Arm.selector, Selector.same], by simp [Arm.selector]⟩,
      ⟨isToken_of_isAlpha (by simp) (by simp), by simp⟩, by simp, by simp,
      ⟨isToken_of_isAlpha (by simp) (by simp), by simp⟩,
      ⟨isToken_of_isAlpha (by simp) (by simp), by simp⟩, by simp⟩
  have hp := parse_print hwf
  obtain ⟨hnone, herr, -⟩ := evaluate_fails_only_for_arguments hp ⟨"en"⟩ args
  exact ⟨hp, hnone, herr⟩

end Phrasebook.Message
