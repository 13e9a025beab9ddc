import Mathlib
import Phrasebook.Proofs.Message.WellFormed
import Phrasebook.Proofs.Decimal.Text

/-!
# The canonical printer

`Msg.print` writes a message as text the reader takes back: literal text with its apostrophes
doubled and, from the first character the reader would take as syntax on (a brace, or `#`
directly in a plural arm), the rest of it quoted; arguments as `{name}` and
`{name, kind, style}`; choices as `{name, plural, offset:k arms}` and `{name, select, arms}`,
the offset always written; each arm as a space, its selector, a space and its message in braces;
exact selectors and offsets in their exact decimal text.

The lemmas after the printer read each written piece back, followed by any rest, in the form the
derivation relations of the reader take; the round trip of whole messages is assembled from them
in `Phrasebook.Proofs.Message.RoundTrip`.
-/

namespace Phrasebook.Message

def needsQuote (parent : Parent) (c : Char) : Bool :=
  c == '{' || c == '}' || (c == '#' && parent == .plural)

def doubleApostrophes : List Char → List Char
  | [] => []
  | c :: cs => if c = '\'' then '\'' :: '\'' :: doubleApostrophes cs else c :: doubleApostrophes cs

def literalText (parent : Parent) : List Char → List Char
  | [] => []
  | c :: cs =>
    if needsQuote parent c then '\'' :: c :: doubleApostrophes cs ++ ['\'']
    else if c = '\'' then '\'' :: '\'' :: literalText parent cs
    else c :: literalText parent cs

def styleText : Option String → List Char
  | none => []
  | some s => ',' :: ' ' :: s.toList

def formattedText (name kind : String) (style : Option String) : List Char :=
  name.toList ++ ',' :: ' ' :: kind.toList ++ styleText style

def Selector.text : Selector → List Char
  | .exact x => '=' :: Decimal.fullText x
  | .keyword k => k.toList

def kindWord : Plural.Kind → String
  | .cardinal => "plural"
  | .ordinal => "selectordinal"

mutual

def Element.text (parent : Parent) : Element → List Char
  | .literal t => literalText parent t.toList
  | .argument n => '{' :: n.toList ++ ['}']
  | .number n s => '{' :: formattedText n "number" s ++ ['}']
  | .date n s => '{' :: formattedText n "date" s ++ ['}']
  | .time n s => '{' :: formattedText n "time" s ++ ['}']
  | .plural n k offset arms =>
    '{' :: n.toList ++ ", ".toList ++ (kindWord k).toList ++ ", offset:".toList ++
      Decimal.integerText offset ++ armsText .plural arms ++ ['}']
  | .select n arms => '{' :: n.toList ++ ", select,".toList ++ armsText .other arms ++ ['}']
  | .pound => ['#']

def armsText (parent : Parent) : List Arm → List Char
  | [] => []
  | .mk sel m :: rest =>
    ' ' :: sel.text ++ ' ' :: '{' :: messageText parent m ++ '}' :: armsText parent rest

def messageText (parent : Parent) : List Element → List Char
  | [] => []
  | e :: rest => e.text parent ++ messageText parent rest

end

/-- the canonical text of a message -/
def Msg.print (m : Msg) : String := String.ofList (messageText .root m)


/-! ## Literal text -/

theorem quotedRun_doubleApostrophes (t : List Char) {rest : List Char}
    (hrest : rest.head? ≠ some '\'') (lit : List Char) :
    quotedRun (doubleApostrophes t ++ '\'' :: rest) lit = (t.reverse ++ lit, rest) := by
  induction t generalizing lit with
  | nil =>
    cases rest with
    | nil => rfl
    | cons c rest =>
      have hc : c ≠ '\'' := fun h => hrest (by rw [h]; rfl)
      simp [doubleApostrophes, quotedRun, hc]
  | cons c t ih =>
    by_cases hc : c = '\''
    · subst hc
      simp [doubleApostrophes, quotedRun, ih]
    · rw [doubleApostrophes, if_neg hc, List.cons_append, quotedRun.eq_4 _ _ _ (by simp [hc]) (by simp [hc]), ih]
      simp

theorem afterApostrophe_of_needsQuote {parent : Parent} {c : Char} (hq : needsQuote parent c)
    (cs lit : List Char) : afterApostrophe parent (c :: cs) lit = quotedRun cs (c :: lit) := by
  have hc : c ≠ '\'' := by
    rintro rfl
    revert hq
    cases parent <;> decide
  unfold afterApostrophe
  split
  · next h => exact absurd (List.cons.inj h).1 hc
  · next c' rest h =>
    obtain ⟨rfl, rfl⟩ := List.cons.inj h
    rw [if_pos (by simpa [needsQuote] using hq), quotedRun.eq_4 _ _ _ (by simp [hc]) (by simp [hc])]
  · next h => exact absurd h (List.cons_ne_nil _ _)

theorem reads_literalText {depth : Nat} {parent : Parent} (t : List Char) {lit : List Char}
    {acc : List Element} {m : Msg} {rest out : List Char} (hrest : rest.head? ≠ some '\'')
    (h : ReadsElements depth parent rest (t.reverse ++ lit) acc m out) :
    ReadsElements depth parent (literalText parent t ++ rest) lit acc m out := by
  induction t generalizing lit with
  | nil => exact h
  | cons c t ih =>
    rw [List.reverse_cons, List.append_assoc, List.singleton_append] at h
    by_cases hq : needsQuote parent c
    · rw [literalText, if_pos hq]
      simp only [List.cons_append, List.append_assoc, List.nil_append]
      apply ReadsElements.quote
      rw [afterApostrophe_of_needsQuote hq, quotedRun_doubleApostrophes t hrest]
      exact h
    by_cases ha : c = '\''
    · subst ha
      rw [literalText, if_neg hq, if_pos rfl, List.cons_append, List.cons_append]
      exact ReadsElements.quote (ih h)
    rw [literalText, if_neg hq, if_neg ha, List.cons_append]
    have hb1 : c ≠ '{' := fun hc => hq (by simp [needsQuote, hc])
    have hb2 : c ≠ '}' := fun hc => hq (by simp [needsQuote, hc])
    by_cases hh : c = '#'
    · subst hh
      exact ReadsElements.hash (fun hp => hq (by simp [needsQuote, hp])) (ih h)
    · exact ReadsElements.char hb2 hb1 hh ha (ih h)

/-! ## Names, blanks and styles -/

theorem readName_append {name rest : List Char} (hname : ∀ c ∈ name, isNameStop c = false)
    (hrest : ∀ c ∈ rest.head?, isNameStop c = true) : readName (name ++ rest) = (name, rest) := by
  have hstop : ∀ c ∈ rest.head?, (!isNameStop c) = false := by simpa using hrest
  unfold readName
  rw [List.takeWhile_append_of_pos (by simpa using hname),
    List.dropWhile_append_of_pos (by simpa using hname)]
  cases rest with
  | nil => simp
  | cons c rest =>
    have hc := hstop c rfl
    simp [hc]

theorem skipBlanks_of_head {cs : List Char} (h : ∀ c ∈ cs.head?, Text.isBlank c = false) :
    skipBlanks cs = cs := by
  cases cs with
  | nil => rfl
  | cons c cs => simp [skipBlanks, h c rfl]

theorem skipBlanks_space (cs : List Char) : skipBlanks (' ' :: cs) = skipBlanks cs := by
  simp [skipBlanks, List.dropWhile_cons, Text.isBlank_space]

theorem isBlank_of_isNameStop_false {c : Char} (h : isNameStop c = false) : Text.isBlank c = false := by
  simp only [isNameStop, Bool.or_eq_false_iff] at h
  exact h.1.1.1.1.1

theorem stop_head {c : Char} (hc : isNameStop c = true) (rest : List Char) :
    ∀ d ∈ (c :: rest).head?, isNameStop d = true := by
  intro d hd
  cases hd
  exact hc

theorem blank_head {c : Char} (hc : Text.isBlank c = false) (rest : List Char) :
    ∀ d ∈ (c :: rest).head?, Text.isBlank d = false := by
  intro d hd
  cases hd
  exact hc

theorem skipBlanks_token {name : List Char} (hname : name ≠ [] ∧ ∀ c ∈ name, isNameStop c = false)
    (rest : List Char) : skipBlanks (name ++ rest) = name ++ rest := by
  obtain ⟨c, cs, rfl⟩ := List.exists_cons_of_ne_nil hname.1
  exact skipBlanks_of_head
    (blank_head (isBlank_of_isNameStop_false (hname.2 _ (List.mem_cons_self ..))) _)

theorem readName_token {name rest : List Char} (hname : name ≠ [] ∧ ∀ c ∈ name, isNameStop c = false)
    (hrest : ∀ c ∈ rest.head?, isNameStop c = true) :
    readName (skipBlanks (name ++ rest)) = (name, rest) := by
  rw [skipBlanks_token hname]
  exact readName_append hname.2 hrest

theorem isToken_toList {n : String} (hn : IsToken n) :
    n.toList ≠ [] ∧ ∀ c ∈ n.toList, isNameStop c = false :=
  ⟨fun h => hn.1 (String.toList_eq_nil_iff.1 h), hn.2⟩

theorem trimBlankList_space {t : String} (ht : Text.trimBlanks t = t) :
    Text.trimBlankList (' ' :: t.toList) = t.toList := by
  have h : Text.trimBlankList t.toList = t.toList := by
    have := congrArg String.toList ht
    rwa [Text.trimBlanks, String.toList_ofList] at this
  have hspace : Text.trimBlankList (' ' :: t.toList) = Text.trimBlankList t.toList := by
    simp [Text.trimBlankList, List.dropWhile_cons, Text.isBlank_space]
  rw [hspace, h]

theorem readStyle_styleText {s : Option String} (hs : ∀ t ∈ s, IsStyle t) (rest : List Char) :
    readStyle (styleText s ++ '}' :: rest) = .ok (s, rest) := by
  cases s with
  | none => rfl
  | some t =>
    obtain ⟨hne, htrim, hopen, hclose⟩ := hs t rfl
    have hbrace : ∀ c ∈ ' ' :: t.toList, (c != '}' && c != '{') = true := by
      intro c hc
      rcases List.mem_cons.1 hc with rfl | hc
      · decide
      · simp only [bne_iff_ne, ne_eq, Bool.and_eq_true]
        exact ⟨fun h => hclose (h ▸ hc), fun h => hopen (h ▸ hc)⟩
    have hdrop : (' ' :: (t.toList ++ '}' :: rest)).dropWhile (fun c => c != '}' && c != '{') =
        '}' :: rest := by
      rw [← List.cons_append, List.dropWhile_append_of_pos hbrace]
      simp
    have htake : (' ' :: (t.toList ++ '}' :: rest)).takeWhile (fun c => c != '}' && c != '{') =
        ' ' :: t.toList := by
      rw [← List.cons_append, List.takeWhile_append_of_pos hbrace]
      simp
    simp only [styleText, List.cons_append, readStyle, expectChar]
    simp [hdrop, htake, trimBlankList_space htrim, hne]

theorem reads_simple {depth : Nat} {n : String} (hn : IsToken n) (rest : List Char) :
    ReadsArgument depth (n.toList ++ '}' :: rest) (.argument n) rest := by
  have h : ReadsArgument depth (n.toList ++ '}' :: rest) (.argument (String.ofList n.toList)) rest :=
    .simple (readName_token (isToken_toList hn) (stop_head (by decide) rest)) (isToken_toList hn).1
      (skipBlanks_of_head (blank_head (by decide) rest))
  rwa [String.ofList_toList] at h

theorem isToken_kind {kind : String} (hkind : kind = "number" ∨ kind = "date" ∨ kind = "time") :
    kind.toList ≠ [] ∧ ∀ c ∈ kind.toList, isNameStop c = false := by
  rcases hkind with rfl | rfl | rfl <;> simp [isNameStop] <;> decide

theorem styleText_head (s : Option String) (rest : List Char) :
    (∀ c ∈ (styleText s ++ '}' :: rest).head?, isNameStop c = true) ∧
    ∀ c ∈ (styleText s ++ '}' :: rest).head?, Text.isBlank c = false := by
  cases s with
  | none => exact ⟨stop_head (by decide) rest, blank_head (by decide) rest⟩
  | some t => exact ⟨stop_head (by decide) _, blank_head (by decide) _⟩

theorem reads_formatted {depth : Nat} {n kind : String} {s : Option String} (hn : IsToken n)
    (hkind : kind = "number" ∨ kind = "date" ∨ kind = "time") (hs : ∀ t ∈ s, IsStyle t)
    (rest : List Char) :
    ReadsArgument depth (formattedText n kind s ++ '}' :: rest)
      (if kind = "number" then .number n s else if kind = "date" then .date n s else .time n s)
      rest := by
  have hname : readName (skipBlanks (n.toList ++ ',' :: ' ' :: (kind.toList ++ (styleText s ++
      '}' :: rest)))) = (n.toList, ',' :: ' ' :: (kind.toList ++ (styleText s ++ '}' :: rest))) :=
    readName_token (isToken_toList hn) (stop_head (by decide) _)
  have hcomma : expectChar ',' (skipBlanks (',' :: ' ' :: (kind.toList ++ (styleText s ++
      '}' :: rest)))) = .ok (' ' :: (kind.toList ++ (styleText s ++ '}' :: rest))) := by
    rw [skipBlanks_of_head (blank_head (by decide) _)]
    rfl
  have hk : readName (skipBlanks (' ' :: (kind.toList ++ (styleText s ++ '}' :: rest)))) =
      (kind.toList, styleText s ++ '}' :: rest) := by
    rw [skipBlanks_space]
    exact readName_token (isToken_kind hkind) (styleText_head s rest).1
  have hstyle : readStyle (skipBlanks (styleText s ++ '}' :: rest)) = .ok (s, rest) := by
    rw [skipBlanks_of_head (styleText_head s rest).2, readStyle_styleText hs]
  have h : ReadsArgument depth
      (n.toList ++ ',' :: ' ' :: (kind.toList ++ (styleText s ++ '}' :: rest))) _ rest :=
    .formatted hname (isToken_toList hn).1 hcomma hk (by rwa [String.ofList_toList]) hstyle
  simp only [String.ofList_toList] at h
  simpa only [formattedText, List.append_assoc, List.cons_append] using h

/-! ## Offsets -/

theorem foldl_digits (l : List Char) (a : Nat) :
    l.foldl (fun acc c => acc * 10 + ((c.toNat - '0'.toNat : Nat) : Int)) (a : Int) =
      (Nat.ofDigitChars 10 l a : Int) := by
  induction l generalizing a with
  | nil => rfl
  | cons c l ih =>
    rw [List.foldl_cons, Nat.ofDigitChars_cons, ← ih]
    push_cast
    ring_nf

theorem readInt64_toDigits (negative : Bool) {j : Nat} (hj : j < 2 ^ 63) :
    readInt64 negative (Nat.toDigits 10 j) = some (if negative then -(j : Int) else j) := by
  have hmag := foldl_digits (Nat.toDigits 10 j) 0
  rw [Nat.ofDigitChars_ten_toDigits] at hmag
  unfold readInt64
  simp only [Nat.cast_zero] at hmag
  rw [hmag, if_neg]
  simp only [Bool.or_eq_true, decide_eq_true_eq, not_or, List.isEmpty_iff, Nat.toDigits_ne_nil,
    not_false_eq_true, true_and]
  unfold int64Min int64Max
  cases negative <;> simp <;> omega

theorem digits_append_split (v : Nat) {cs : List Char} (hcs : ∀ c ∈ cs.head?, c.isDigit = false) :
    (Nat.toDigits 10 v ++ cs).takeWhile Char.isDigit = Nat.toDigits 10 v ∧
    (Nat.toDigits 10 v ++ cs).dropWhile Char.isDigit = cs := by
  have hd : ∀ c ∈ Nat.toDigits 10 v, c.isDigit = true :=
    fun c hc => Nat.isDigit_of_mem_toDigits (by decide : 0 < 10) (by decide : 10 ≤ 10) hc
  rw [List.takeWhile_append_of_pos hd, List.dropWhile_append_of_pos hd]
  cases cs with
  | nil => simp
  | cons c cs => simp [hcs c rfl]

theorem isBlank_of_isDigit {c : Char} (hc : c.isDigit = true) : Text.isBlank c = false := by
  have := Char.isDigit_iff_toNat.1 hc
  have h0 : '0'.toNat = 48 := rfl
  have h9 : '9'.toNat = 57 := rfl
  simp only [Text.isBlank, Bool.or_eq_false_iff, Bool.and_eq_false_iff, beq_eq_false_iff_ne,
    decide_eq_false_iff_not]
  omega

theorem skipBlanks_signed_digits (negative : Bool) (j : Nat) (cs : List Char) :
    skipBlanks ((if negative then ['-'] else []) ++ (Nat.toDigits 10 j ++ cs)) =
      (if negative then ['-'] else []) ++ (Nat.toDigits 10 j ++ cs) := by
  apply skipBlanks_of_head
  obtain ⟨c, ds, hds, hc⟩ := Decimal.toDigits_head_isDigit j
  cases negative
  · rw [hds]
    exact blank_head (isBlank_of_isDigit hc) _
  · exact blank_head (by decide) _

theorem splitSign_signed_digits (negative : Bool) (j : Nat) (cs : List Char) :
    splitSign ((if negative then ['-'] else []) ++ (Nat.toDigits 10 j ++ cs)) =
      (negative, Nat.toDigits 10 j ++ cs) := by
  obtain ⟨c, ds, hds, hc⟩ := Decimal.toDigits_head_isDigit j
  cases negative
  · rw [if_neg (by decide), List.nil_append, hds, List.cons_append, splitSign.eq_2]
    rintro r ⟨rfl, -⟩
    revert hc
    decide
  · rfl

theorem readOffset_integerText {x : Float} (hx : IsIntegerOffset x) {cs : List Char}
    (hcs : ∀ c ∈ cs.head?, c.isDigit = false) :
    readOffset (skipBlanks (' ' :: ("offset:".toList ++ (Decimal.integerText x ++ cs)))) =
      .ok (x, skipBlanks cs) := by
  obtain ⟨k, hlo, hhi, rfl⟩ := hx
  unfold int64Min at hlo
  unfold int64Max at hhi
  obtain ⟨j, hj, hpos, htext, hround⟩ := Decimal.integerText_spec k (by omega) (by omega)
  have hsplit := digits_append_split j hcs
  rw [skipBlanks_space, show "offset:".toList = ['o', 'f', 'f', 's', 'e', 't', ':'] from rfl,
    htext]
  simp only [List.cons_append, List.nil_append, List.append_assoc]
  rw [skipBlanks_of_head (blank_head (by decide) _), readOffset.eq_1, skipBlanks_signed_digits,
    splitSign_signed_digits]
  dsimp only
  rw [hsplit.1, hsplit.2, readInt64_toDigits _ hj]
  dsimp only
  rw [← hround]
  by_cases hk : k < 0
  · have hj0 := hpos hk
    simp only [decide_eq_true hk, if_true]
    congr 3
    · simp; omega
    · omega
  · simp only [decide_eq_false hk]
    congr 3

/-! ## Selectors and choices -/

theorem isNameStop_of_isAlphanum {c : Char} (h : c.isAlphanum ∨ c = '-') : isNameStop c = false := by
  rcases h with h | rfl
  · simp only [Char.isAlphanum, Char.isAlpha, Char.isUpper, Char.isLower, Char.isDigit,
      Bool.or_eq_true, Bool.and_eq_true, decide_eq_true_eq, UInt32.le_iff_toNat_le, ge_iff_le] at h
    have hc : c.toNat = c.val.toNat := rfl
    have : 'A'.val.toNat = 65 := rfl
    have : 'Z'.val.toNat = 90 := rfl
    have : 'a'.val.toNat = 97 := rfl
    have : 'z'.val.toNat = 122 := rfl
    have : '0'.val.toNat = 48 := rfl
    have : '9'.val.toNat = 57 := rfl
    have hne : ∀ d : Char, d.toNat < 48 ∨ (57 < d.toNat ∧ d.toNat < 65) ∨
        (90 < d.toNat ∧ d.toNat < 97) ∨ 122 < d.toNat → c ≠ d := by
      intro d hd hcd
      subst hcd
      omega
    simp only [isNameStop, Text.isBlank, Bool.or_eq_false_iff, Bool.and_eq_false_iff,
      decide_eq_false_iff_not, beq_eq_false_iff_ne]
    refine ⟨⟨⟨⟨⟨?_, ?_⟩, ?_⟩, ?_⟩, ?_⟩, ?_⟩
    all_goals first | omega | exact hne _ (by decide)
  · decide

theorem isToken_of_isAlpha {s : String} (hne : s.toList ≠ [])
    (halpha : ∀ c ∈ s.toList, c.isAlpha = true) : IsToken s :=
  ⟨fun h => hne (by simp [h]), fun c hc =>
    isNameStop_of_isAlphanum (Or.inl (by simp [Char.isAlphanum, halpha c hc]))⟩

theorem Selector.text_token {parent : Parent} {sel : Selector} (hsel : sel.Allowed parent) :
    sel.text ≠ [] ∧ ∀ c ∈ sel.text, isNameStop c = false := by
  cases sel with
  | exact x =>
    refine ⟨List.cons_ne_nil _ _, fun c hc => ?_⟩
    rcases List.mem_cons.1 hc with rfl | hc
    · decide
    · exact isNameStop_of_isAlphanum (Decimal.mem_fullText hc)
  | keyword k => exact isToken_toList hsel.1

theorem readSelector_text {parent : Parent} {sel : Selector} (hsel : sel.Allowed parent)
    (cs after : List Char) : readSelector parent (String.ofList sel.text) cs after = .ok sel := by
  apply readSelector_eq_ok_iff.2
  cases sel with
  | exact x =>
    exact Or.inl ⟨_, x, String.toList_ofList, hsel, Decimal.readDouble_fullText x, rfl⟩
  | keyword k =>
    refine Or.inr ⟨?_, ?_, ?_⟩
    · rw [Selector.text, String.ofList_toList]; exact hsel.1.1
    · rw [Selector.text, String.ofList_toList]; exact hsel.2
    · rw [Selector.text, String.ofList_toList]

theorem finishArms_of_shaped {arms : List Arm} (h : ArmsShaped arms) (rest : List Char) :
    finishArms arms rest = .ok arms := by
  obtain ⟨hne, -, a, ha, hother⟩ := h
  have hany : hasOther arms = true := by
    simp only [hasOther, List.any_eq_true]
    exact ⟨a, ha, by rw [hother]; rfl⟩
  unfold finishArms
  rw [if_neg (by simpa using hne), hany]
  rfl

theorem isToken_kindWord (k : Plural.Kind) :
    (kindWord k).toList ≠ [] ∧ ∀ c ∈ (kindWord k).toList, isNameStop c = false := by
  cases k <;> simp [kindWord, isNameStop] <;> decide

theorem readsArms_skipBlanks {depth : Nat} {parent : Parent} {cs : List Char} {done out : List Arm}
    {rest : List Char} (h : ReadsArms depth parent cs done out rest) :
    ReadsArms depth parent (skipBlanks cs) done out rest := by
  have hidem : skipBlanks (skipBlanks cs) = skipBlanks cs := List.dropWhile_idempotent _ _
  cases h with
  | close hc hf => exact .close (by rw [hidem]; exact hc) hf
  | arm ht hs hnew ho hm hc ha => exact .arm (by rw [hidem]; exact ht) (by rw [hidem]; exact hs) hnew ho hm hc ha

theorem reads_plural {depth : Nat} {n : String} (k : Plural.Kind) {x : Float} {arms : List Arm}
    {cs rest : List Char} (hn : IsToken n) (hx : IsIntegerOffset x)
    (hcs : ∀ c ∈ cs.head?, c.isDigit = false) (ha : ReadsArms depth .plural cs [] arms rest) :
    ReadsArgument depth (n.toList ++ (", ".toList ++ ((kindWord k).toList ++
      (", offset:".toList ++ (Decimal.integerText x ++ cs))))) (.plural n k x arms) rest := by
  rw [show ", ".toList = [',', ' '] from rfl,
    show ", offset:".toList = ',' :: ' ' :: "offset:".toList from rfl]
  simp only [List.cons_append, List.nil_append]
  have hname : readName (skipBlanks (n.toList ++ ',' :: ' ' :: ((kindWord k).toList ++ ',' :: ' ' ::
      ("offset:".toList ++ (Decimal.integerText x ++ cs))))) = (n.toList, ',' :: ' ' ::
      ((kindWord k).toList ++ ',' :: ' ' :: ("offset:".toList ++ (Decimal.integerText x ++ cs)))) :=
    readName_token (isToken_toList hn) (stop_head (by decide) _)
  have hcomma : expectChar ',' (skipBlanks (',' :: ' ' :: ((kindWord k).toList ++ ',' :: ' ' ::
      ("offset:".toList ++ (Decimal.integerText x ++ cs))))) = .ok (' ' :: ((kindWord k).toList ++
      ',' :: ' ' :: ("offset:".toList ++ (Decimal.integerText x ++ cs)))) := by
    rw [skipBlanks_of_head (blank_head (by decide) _)]
    rfl
  have hk : readName (skipBlanks (' ' :: ((kindWord k).toList ++ ',' :: ' ' ::
      ("offset:".toList ++ (Decimal.integerText x ++ cs))))) = ((kindWord k).toList, ',' :: ' ' ::
      ("offset:".toList ++ (Decimal.integerText x ++ cs))) := by
    rw [skipBlanks_space]
    exact readName_token (isToken_kindWord k) (stop_head (by decide) _)
  have hcomma' : expectChar ',' (skipBlanks (',' :: ' ' ::
      ("offset:".toList ++ (Decimal.integerText x ++ cs)))) =
      .ok (' ' :: ("offset:".toList ++ (Decimal.integerText x ++ cs))) := by
    rw [skipBlanks_of_head (blank_head (by decide) _)]
    rfl
  have hkind : String.ofList (kindWord k).toList = "plural" ∨
      String.ofList (kindWord k).toList = "selectordinal" := by
    cases k <;> simp [kindWord]
  have h : ReadsArgument depth _ _ rest :=
    .plural hname (isToken_toList hn).1 hcomma hk hkind hcomma' (readOffset_integerText hx hcs)
      (readsArms_skipBlanks ha)
  cases k <;> simpa [kindWord] using h

theorem reads_select {depth : Nat} {n : String} {arms : List Arm} {cs rest : List Char}
    (hn : IsToken n) (ha : ReadsArms depth .other cs [] arms rest) :
    ReadsArgument depth (n.toList ++ (", select,".toList ++ cs)) (.select n arms) rest := by
  rw [show ", select,".toList = ',' :: ' ' :: ("select".toList ++ [',']) from rfl]
  simp only [List.cons_append, List.append_assoc, List.nil_append]
  have hword : "select".toList ≠ [] ∧ ∀ c ∈ "select".toList, isNameStop c = false := by
    simp [isNameStop]; decide
  have hname : readName (skipBlanks (n.toList ++ ',' :: ' ' :: ("select".toList ++ ',' :: cs))) =
      (n.toList, ',' :: ' ' :: ("select".toList ++ ',' :: cs)) :=
    readName_token (isToken_toList hn) (stop_head (by decide) _)
  have hcomma : expectChar ',' (skipBlanks (',' :: ' ' :: ("select".toList ++ ',' :: cs))) =
      .ok (' ' :: ("select".toList ++ ',' :: cs)) := by
    rw [skipBlanks_of_head (blank_head (by decide) _)]
    rfl
  have hk : readName (skipBlanks (' ' :: ("select".toList ++ ',' :: cs))) =
      ("select".toList, ',' :: cs) := by
    rw [skipBlanks_space]
    exact readName_token hword (stop_head (by decide) cs)
  have hcomma' : expectChar ',' (skipBlanks (',' :: cs)) = .ok cs := by
    rw [skipBlanks_of_head (blank_head (by decide) _)]
    rfl
  have h : ReadsArgument depth _ _ rest :=
    .select hname (isToken_toList hn).1 hcomma hk (by simp) hcomma' ha
  simpa using h

end Phrasebook.Message
