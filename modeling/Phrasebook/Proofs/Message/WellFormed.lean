import Mathlib
import Phrasebook.Proofs.Message.Reads

/-!
# Well-formed messages

The messages the reader can return, described without the reader:

* `IsToken s`             a name or keyword: not empty, no blank and none of `{ } , # '`;
* `IsStyle s`             a style: not empty, trimmed, and without braces;
* `IsIntegerOffset x`     the double nearest to a 64-bit integer;
* `Selector.Allowed`      exact selectors only in plural arms, keywords not starting with `=`;
* `ArmsShaped arms`       at least one arm, no selector the same as an earlier one, an `other` arm;
* `Element.Shaped parent` the conditions above at every depth, and `#` only directly in the
                          messages of plural arms;
* `Msg.nesting`           how deeply choices nest;
* `Msg.WellFormed m`      shaped at the top level, with no literal text next to literal text at
                          any depth, and choices nested at most `maxDepth` deep.

The main statement is `wellFormed_of_parse`: whatever `parse` returns is well formed.
-/

namespace Phrasebook.Message

/-- a name or keyword as the reader takes it: not empty, and free of blanks and of `{ } , # '` -/
def IsToken (s : String) : Prop := s ≠ "" ∧ ∀ c ∈ s.toList, isNameStop c = false

/-- a style as the reader keeps it: not empty, with no blank at either end, and no brace -/
def IsStyle (s : String) : Prop :=
  s ≠ "" ∧ Text.trimBlanks s = s ∧ '{' ∉ s.toList ∧ '}' ∉ s.toList

/-- the double nearest to a 64-bit integer -/
def IsIntegerOffset (x : Float) : Prop :=
  ∃ k : Int, int64Min ≤ k ∧ k ≤ int64Max ∧ x = Decimal.doubleOfRatio (decide (k < 0)) k.natAbs 1

/-- a selector allowed for arms whose messages stand in `parent`: an exact number only in a
plural choice, and a keyword that is a token not starting with `=` -/
def Selector.Allowed (parent : Parent) : Selector → Prop
  | .exact _ => parent = .plural
  | .keyword k => IsToken k ∧ k.toList.head? ≠ some '='

/-- the arms of a choice: at least one, none the same as an earlier one, and one of them the
keyword `other` -/
def ArmsShaped (arms : List Arm) : Prop :=
  arms ≠ [] ∧ arms.Pairwise (fun a b => a.selector.same b.selector = false) ∧
    ∃ a ∈ arms, a.selector = .keyword "other"

def Element.isLiteral : Element → Bool
  | .literal _ => true
  | _ => false

def Apart (a b : Element) : Prop := a.isLiteral = false ∨ b.isLiteral = false

mutual

def Element.Shaped (parent : Parent) : Element → Prop
  | .literal t => t ≠ ""
  | .argument n => IsToken n
  | .number n s => IsToken n ∧ ∀ t ∈ s, IsStyle t
  | .date n s => IsToken n ∧ ∀ t ∈ s, IsStyle t
  | .time n s => IsToken n ∧ ∀ t ∈ s, IsStyle t
  | .plural n _ offset arms =>
    IsToken n ∧ IsIntegerOffset offset ∧ ArmsShaped arms ∧ ShapedArms .plural arms
  | .select n arms => IsToken n ∧ ArmsShaped arms ∧ ShapedArms .other arms
  | .pound => parent = .plural

def ShapedArms (parent : Parent) : List Arm → Prop
  | [] => True
  | .mk sel m :: rest =>
    sel.Allowed parent ∧ ShapedElements parent m ∧ m.IsChain Apart ∧ ShapedArms parent rest

def ShapedElements (parent : Parent) : List Element → Prop
  | [] => True
  | e :: rest => e.Shaped parent ∧ ShapedElements parent rest

end

def Msg.Shaped (parent : Parent) (m : Msg) : Prop := ShapedElements parent m ∧ m.IsChain Apart

mutual

/-- how many choices nest in an element, itself included -/
def Element.nesting : Element → Nat
  | .plural _ _ _ arms => armsNesting arms + 1
  | .select _ arms => armsNesting arms + 1
  | _ => 0

def armsNesting : List Arm → Nat
  | [] => 0
  | .mk _ m :: rest => max (Msg.nesting m) (armsNesting rest)

/-- the deepest nesting of choices in a message -/
def Msg.nesting : Msg → Nat
  | [] => 0
  | e :: rest => max e.nesting (Msg.nesting rest)

end

def Msg.WellFormed (m : Msg) : Prop := Msg.Shaped .root m ∧ m.nesting ≤ maxDepth

theorem shapedElements_iff {parent : Parent} {m : List Element} :
    ShapedElements parent m ↔ ∀ e ∈ m, e.Shaped parent := by
  induction m with
  | nil => simp [ShapedElements]
  | cons e rest ih => simp [ShapedElements, ih]

theorem shapedArms_iff {parent : Parent} {arms : List Arm} :
    ShapedArms parent arms ↔ ∀ a ∈ arms, a.selector.Allowed parent ∧ Msg.Shaped parent a.message := by
  induction arms with
  | nil => simp [ShapedArms]
  | cons a rest ih =>
    obtain ⟨sel, m⟩ := a
    simp [ShapedArms, ih, Msg.Shaped, Arm.selector, Arm.message, and_assoc]

theorem nesting_le_iff {m : Msg} {n : Nat} : m.nesting ≤ n ↔ ∀ e ∈ m, e.nesting ≤ n := by
  induction m with
  | nil => simp [Msg.nesting]
  | cons e rest ih => simp [Msg.nesting, ih]

theorem armsNesting_le_iff {arms : List Arm} {n : Nat} :
    armsNesting arms ≤ n ↔ ∀ a ∈ arms, Msg.nesting a.message ≤ n := by
  induction arms with
  | nil => simp [armsNesting]
  | cons a rest ih =>
    obtain ⟨sel, m⟩ := a
    simp [armsNesting, ih, Arm.message]

theorem armsNesting_add_le {arms : List Arm} {k n : Nat} (hne : arms ≠ [])
    (h : ∀ a ∈ arms, Msg.nesting a.message + k ≤ n) : armsNesting arms + k ≤ n := by
  obtain ⟨a, ha⟩ := List.exists_mem_of_ne_nil arms hne
  have hk : k ≤ n := by have := h a ha; omega
  have := armsNesting_le_iff.2 fun b hb => Nat.le_sub_of_add_le (h b hb)
  omega

/-! ## What each step of the reader returns -/

theorem isToken_of_readName {cs name after : List Char} (hn : readName cs = (name, after))
    (hne : name ≠ []) : IsToken (String.ofList name) := by
  refine ⟨by rwa [Ne, String.ofList_eq_empty_iff], fun c hc => ?_⟩
  rw [String.toList_ofList] at hc
  have hc' : c ∈ (readName cs).1 := by rw [hn]; exact hc
  simpa using List.mem_takeWhile_imp hc'

theorem dropWhile_eq_self_of_prefix {p : Char → Bool} {l l' : List Char}
    (h : l.dropWhile p = l) (hp : l' <+: l) : l'.dropWhile p = l' := by
  rw [List.dropWhile_eq_self_iff] at h ⊢
  intro hl
  have hl0 : 0 < l.length := Nat.lt_of_lt_of_le hl hp.length_le
  rw [hp.getElem hl]
  exact h hl0

theorem trimBlankList_trimBlankList (xs : List Char) :
    Text.trimBlankList (Text.trimBlankList xs) = Text.trimBlankList xs := by
  have htrim : ∀ ys, Text.trimBlankList ys = (ys.dropWhile Text.isBlank).rdropWhile Text.isBlank :=
    fun ys => rfl
  rw [htrim, htrim xs,
    dropWhile_eq_self_of_prefix (List.dropWhile_idempotent _ _)
      (List.rdropWhile_prefix _ _),
    List.rdropWhile_idempotent]

theorem mem_of_mem_trimBlankList {c : Char} {xs : List Char} (h : c ∈ Text.trimBlankList xs) :
    c ∈ xs := by
  unfold Text.trimBlankList at h
  have h1 := (List.dropWhile_sublist _).subset (List.mem_reverse.1 h)
  exact (List.dropWhile_sublist _).subset (List.mem_reverse.1 h1)

theorem isStyle_of_readStyle {cs rest : List Char} {style : Option String}
    (h : readStyle cs = .ok (style, rest)) : ∀ t ∈ style, IsStyle t := by
  unfold readStyle at h
  split at h
  · cases h
    simp
  split at h
  · cases h
  rename_i body _
  dsimp only at h
  split at h
  · cases h
  split at h
  · cases h
  split at h
  · cases h
  rename_i hne
  cases h
  intro t ht
  cases ht
  have hsub : ∀ c ∈ Text.trimBlankList (body.takeWhile fun c => c != '}' && c != '{'),
      c ≠ '{' ∧ c ≠ '}' := by
    intro c hc
    have hc' : c ∈ body.takeWhile fun c => c != '}' && c != '{' :=
      mem_of_mem_trimBlankList hc
    have := List.mem_takeWhile_imp hc'
    simp only [bne_iff_ne, ne_eq, Bool.and_eq_true] at this
    exact ⟨this.2, this.1⟩
  refine ⟨by simpa using hne, ?_, fun hc => (hsub _ (by simpa using hc)).1 rfl,
    fun hc => (hsub _ (by simpa using hc)).2 rfl⟩
  rw [Text.trimBlanks, String.toList_ofList, trimBlankList_trimBlankList]

theorem readInt64_range {negative : Bool} {digits : List Char} {k : Int}
    (h : readInt64 negative digits = some k) : int64Min ≤ k ∧ k ≤ int64Max := by
  unfold readInt64 at h
  cases negative
  all_goals
    simp only [Bool.false_eq_true, if_false, if_true, Bool.or_eq_true, decide_eq_true_eq] at h
    split at h
    · cases h
    · rename_i hc
      cases h
      simp only [not_or] at hc
      omega

theorem isIntegerOffset_of_readOffset {cs rest : List Char} {offset : Float}
    (h : readOffset cs = .ok (offset, rest)) : IsIntegerOffset offset := by
  unfold readOffset at h
  split at h
  · dsimp only at h
    split at h
    · cases h
    rename_i k hk
    cases h
    exact ⟨k, (readInt64_range hk).1, (readInt64_range hk).2, rfl⟩
  · cases h
    exact ⟨0, by decide, by decide, by decide⟩

theorem readSelector_eq_ok_iff {parent : Parent} {token : String} {cs after : List Char}
    {sel : Selector} :
    readSelector parent token cs after = .ok sel ↔
      (∃ number x, token.toList = '=' :: number ∧ parent = .plural ∧
        Decimal.readDouble (String.ofList number) = some x ∧ sel = .exact x) ∨
      (token ≠ "" ∧ token.toList.head? ≠ some '=' ∧ sel = .keyword token) := by
  unfold readSelector
  rcases ht : token.toList with _ | ⟨c, r⟩
  · have : token = "" := String.toList_inj.1 (by rw [ht]; rfl)
    simp [this]
  by_cases hc : c = '='
  · subst hc
    have hne : token ≠ "" := fun h => by rw [h] at ht; cases ht
    by_cases hp : parent = .plural
    · subst hp
      cases hx : Decimal.readDouble (String.ofList r) <;> simp [hx, eq_comm]
    · simp [hp]
  · have hne : token ≠ "" := fun h => by rw [h] at ht; cases ht
    simp [hc, hne, eq_comm]

theorem allowed_of_readSelector {parent : Parent} {token cs after : List Char} {sel : Selector}
    (htok : ∀ c ∈ token, isNameStop c = false)
    (h : readSelector parent (String.ofList token) cs after = .ok sel) : sel.Allowed parent := by
  rcases readSelector_eq_ok_iff.1 h with ⟨number, x, -, hp, -, rfl⟩ | ⟨hne, hhead, rfl⟩
  · exact hp
  · exact ⟨⟨hne, by simpa using htok⟩, hhead⟩

theorem finishArms_ok {arms out : List Arm} {rest : List Char}
    (h : finishArms arms rest = .ok out) :
    out = arms ∧ arms ≠ [] ∧ ∃ a ∈ arms, a.selector = .keyword "other" := by
  unfold finishArms at h
  by_cases hne : arms.isEmpty = true
  · simp [hne] at h
  by_cases hother : hasOther arms = true
  · simp only [hne, hother, Bool.not_true, Bool.false_eq_true, if_false, Except.ok.injEq] at h
    refine ⟨h.symm, by simpa using hne, ?_⟩
    simp only [hasOther, List.any_eq_true] at hother
    obtain ⟨a, ha, hk⟩ := hother
    refine ⟨a, ha, ?_⟩
    revert hk
    cases a.selector with
    | keyword k => simp
    | exact x => simp
  · simp [hne, hother] at h

/-! ## The reader returns well-formed messages -/

def AccShaped (parent : Parent) (depth : Nat) (acc : List Element) : Prop :=
  (∀ e ∈ acc, e.Shaped parent ∧ e.nesting + depth ≤ maxDepth) ∧ acc.IsChain Apart ∧
    ∀ e ∈ acc.head?, e.isLiteral = false

theorem Apart.symm {a b : Element} (h : Apart a b) : Apart b a := Or.symm h

section
variable {parent : Parent} {depth : Nat} {acc : List Element}

theorem accShaped_nil : AccShaped parent depth [] := ⟨by simp, .nil, by simp⟩

theorem flush_shaped (h : AccShaped parent depth acc) (hd : depth ≤ maxDepth) (lit : List Char) :
    (∀ e ∈ flush lit acc, e.Shaped parent ∧ e.nesting + depth ≤ maxDepth) ∧
      (flush lit acc).IsChain Apart := by
  obtain ⟨hall, hchain, hhead⟩ := h
  unfold flush
  split
  · exact ⟨hall, hchain⟩
  rename_i hne
  refine ⟨?_, List.isChain_cons.2 ⟨fun e he => .inr (hhead e he), hchain⟩⟩
  intro e he
  rcases List.mem_cons.1 he with rfl | he
  · refine ⟨?_, by simp [Element.nesting, hd]⟩
    simp only [Element.Shaped, ne_eq, String.ofList_eq_empty_iff, List.reverse_eq_nil_iff]
    simpa using hne
  · exact hall e he

theorem accShaped_push (h : AccShaped parent depth acc) {e : Element} (he : e.Shaped parent)
    (hn : e.nesting + depth ≤ maxDepth) (hl : e.isLiteral = false) (lit : List Char) :
    AccShaped parent depth (e :: flush lit acc) := by
  obtain ⟨hall, hchain⟩ := flush_shaped h (by omega) lit
  refine ⟨?_, List.isChain_cons.2 ⟨fun f _ => .inl hl, hchain⟩, by simpa using hl⟩
  intro f hf
  rcases List.mem_cons.1 hf with rfl | hf
  · exact ⟨he, hn⟩
  · exact hall f hf

theorem shaped_of_accShaped (h : AccShaped parent depth acc) (hd : depth ≤ maxDepth)
    (lit : List Char) :
    Msg.Shaped parent (flush lit acc).reverse ∧
      Msg.nesting (flush lit acc).reverse + depth ≤ maxDepth := by
  obtain ⟨hall, hchain⟩ := flush_shaped h hd lit
  refine ⟨⟨shapedElements_iff.2 fun e he => (hall e (List.mem_reverse.1 he)).1, ?_⟩, ?_⟩
  · exact List.isChain_reverse.2 (hchain.imp fun _ _ hab => hab.symm)
  · have := nesting_le_iff.2 fun e he =>
      Nat.le_sub_of_add_le (hall e (List.mem_reverse.1 he)).2
    omega

end

def ArmsSoFar (parent : Parent) (depth : Nat) (arms : List Arm) : Prop :=
  (∀ a ∈ arms, a.selector.Allowed parent ∧ Msg.Shaped parent a.message ∧
    Msg.nesting a.message + (depth + 1) ≤ maxDepth) ∧
  arms.Pairwise (fun a b => a.selector.same b.selector = false)

mutual

theorem shaped_of_readsMessage {depth : Nat} {parent : Parent} {cs : List Char} {m : Msg}
    {rest : List Char} :
    ReadsMessage depth parent cs m rest → Msg.Shaped parent m ∧ m.nesting + depth ≤ maxDepth
  | .mk hd h => shaped_of_readsElements h hd accShaped_nil

theorem shaped_of_readsElements {depth : Nat} {parent : Parent} {cs lit : List Char}
    {acc : List Element} {m : Msg} {rest : List Char} :
    ReadsElements depth parent cs lit acc m rest → depth ≤ maxDepth →
      AccShaped parent depth acc → Msg.Shaped parent m ∧ m.nesting + depth ≤ maxDepth
  | .eoi, hd, ha => shaped_of_accShaped ha hd _
  | .close, hd, ha => shaped_of_accShaped ha hd _
  | .argument h₁ h₂, hd, ha =>
    have ⟨hs, hn, hl⟩ := shaped_of_readsArgument h₁ hd
    shaped_of_readsElements h₂ hd (accShaped_push ha (hs _) hn hl _)
  | .pound h, hd, ha =>
    shaped_of_readsElements h hd
      (accShaped_push ha (show Element.Shaped .plural .pound from rfl) (by simpa [Element.nesting]) rfl _)
  | .hash _ h, hd, ha => shaped_of_readsElements h hd ha
  | .quote h, hd, ha => shaped_of_readsElements h hd ha
  | .char _ _ _ _ h, hd, ha => shaped_of_readsElements h hd ha

theorem shaped_of_readsArgument {depth : Nat} {cs : List Char} {el : Element} {rest : List Char} :
    ReadsArgument depth cs el rest → depth ≤ maxDepth →
      (∀ parent, el.Shaped parent) ∧ el.nesting + depth ≤ maxDepth ∧ el.isLiteral = false
  | .simple hn hne _, hd =>
    ⟨fun _ => isToken_of_readName hn hne, by simpa [Element.nesting], rfl⟩
  | .formatted hn hne _ _ _ hs, hd => by
    have htok := isToken_of_readName hn hne
    have hstyle := isStyle_of_readStyle hs
    refine ⟨fun _ => ?_, ?_, ?_⟩ <;> split_ifs <;>
      simp_all [Element.Shaped, Element.nesting, Element.isLiteral]
  | .plural hn hne _ _ _ _ ho ha, hd => by
    obtain ⟨⟨hall, -⟩, hout⟩ := shaped_of_readsArms ha ⟨by simp, .nil⟩
    refine ⟨fun _ => ⟨isToken_of_readName hn hne, isIntegerOffset_of_readOffset ho, hout,
      shapedArms_iff.2 fun a ha => ⟨(hall a ha).1, (hall a ha).2.1⟩⟩, ?_, rfl⟩
    have := armsNesting_add_le hout.1 fun a ha => (hall a ha).2.2
    simp only [Element.nesting]
    omega
  | .select hn hne _ _ _ _ ha, hd => by
    obtain ⟨⟨hall, -⟩, hout⟩ := shaped_of_readsArms ha ⟨by simp, .nil⟩
    refine ⟨fun _ => ⟨isToken_of_readName hn hne, hout,
      shapedArms_iff.2 fun a ha => ⟨(hall a ha).1, (hall a ha).2.1⟩⟩, ?_, rfl⟩
    have := armsNesting_add_le hout.1 fun a ha => (hall a ha).2.2
    simp only [Element.nesting]
    omega

theorem shaped_of_readsArms {depth : Nat} {parent : Parent} {cs : List Char}
    {arms out : List Arm} {rest : List Char} :
    ReadsArms depth parent cs arms out rest → ArmsSoFar parent depth arms →
      ArmsSoFar parent depth out ∧ ArmsShaped out
  | .close _ hf, ha => by
    obtain ⟨rfl, hne, hother⟩ := finishArms_ok hf
    exact ⟨ha, hne, ha.2, hother⟩
  | .arm ht hs hnew _ hm _ hrest, ⟨hall, hpair⟩ => by
    have htok : ∀ c ∈ (readName (skipBlanks cs)).1, isNameStop c = false := fun c hc => by
      simpa using List.mem_takeWhile_imp hc
    rw [ht] at htok
    obtain ⟨hshape, hnest⟩ := shaped_of_readsMessage hm
    refine shaped_of_readsArms hrest ⟨?_, ?_⟩
    · intro a ha
      rcases List.mem_append.1 ha with ha | ha
      · exact hall a ha
      · simp only [List.mem_singleton] at ha
        subst ha
        exact ⟨allowed_of_readSelector htok hs, hshape, hnest⟩
    · refine List.pairwise_append.2 ⟨hpair, by simp, fun a ha b hb => ?_⟩
      simp only [List.mem_singleton] at hb
      subst hb
      simp only [List.any_eq_false] at hnew
      exact Bool.eq_false_iff.2 (hnew a ha)

end

/-- whatever `parse` returns is well formed -/
theorem wellFormed_of_parse {s : String} {m : Msg} (h : parse s = .ok m) : m.WellFormed := by
  have ⟨hshape, hnest⟩ := shaped_of_readsMessage (parse_ok_iff.1 h)
  exact ⟨hshape, by omega⟩

end Phrasebook.Message
