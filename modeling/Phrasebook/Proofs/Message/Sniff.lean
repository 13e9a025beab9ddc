import Phrasebook.Proofs.Message.RoundTrip
import Phrasebook.Message.Sniff

/-!
# The sniff agrees with the reader

A template goes through message evaluation only when it looks like a message
(`looksLikeMessage`): some `{` is followed, blanks allowed, by a name of the shape
`[A-Za-z_][\w-]*`, a comma and a formatting kind ending at a word boundary. The reader works
independently of it. The main statement, `looksLikeMessage_of_parse`, says the two agree where it
matters: when the reader accepts a template whose message holds, at any depth, a formatted
argument or a choice with a conventional name, the template looks like a message, so its
arguments are evaluated.

The proof follows the reader's derivation (`Reads`): the text after the brace of such an element
is exactly what the sniff looks for, and everything a reader leaves over is a suffix of what it
read, so the brace of a nested element lies in the template. Characters that end the reader's
names are never word characters, which gives the word boundary after the kind.
-/

namespace Phrasebook.Message

/-! ## Character classes -/

theorem isAlphanum_eq_false_of_lt {c : Char} (h : c.toNat < 48) : c.isAlphanum = false := by
  simp only [Char.isAlphanum, Char.isAlpha, Char.isUpper, Char.isLower, Char.isDigit,
    Bool.or_eq_false_iff, Bool.and_eq_false_iff, decide_eq_false_iff_not, UInt32.le_iff_toNat_le,
    ge_iff_le, not_le]
  have hc : c.toNat = c.val.toNat := rfl
  have h1 : 'A'.val.toNat = 65 := rfl
  have h2 : 'a'.val.toNat = 97 := rfl
  have h3 : '0'.val.toNat = 48 := rfl
  omega

theorem isWordChar_of_isBlank {c : Char} (h : Text.isBlank c = true) : Text.isWordChar c = false := by
  have hpoints : [0x85, 0xA0, 0x1680, 0x2000, 0x2001, 0x2002, 0x2003, 0x2004, 0x2005, 0x2006,
      0x2007, 0x2008, 0x2009, 0x200A, 0x2028, 0x2029, 0x202F, 0x205F, 0x3000].all
      (fun n => !Text.memRanges Text.wordRanges n) = true := by decide +kernel
  simp only [Text.isBlank, Bool.or_eq_true, Bool.and_eq_true, decide_eq_true_eq, beq_iff_eq] at h
  unfold Text.isWordChar
  by_cases hlt : c.toNat < 0x80
  · have hsmall : c.toNat < 48 := by omega
    have hu : c ≠ '_' := by
      rintro rfl
      revert hsmall
      decide
    simp [hlt, isAlphanum_eq_false_of_lt hsmall, hu]
  · have hmem : c.toNat ∈ [0x85, 0xA0, 0x1680, 0x2000, 0x2001, 0x2002, 0x2003, 0x2004, 0x2005,
        0x2006, 0x2007, 0x2008, 0x2009, 0x200A, 0x2028, 0x2029, 0x202F, 0x205F, 0x3000] := by
      simp only [List.mem_cons, List.not_mem_nil, or_false]
      omega
    simpa [hlt] using List.all_eq_true.1 hpoints _ hmem

theorem not_word_of_isNameStop {c : Char} (h : isNameStop c = true) :
    Text.isWordChar c = false ∧ c ≠ '-' := by
  simp only [isNameStop, Bool.or_eq_true, beq_iff_eq] at h
  rcases h with ((((hb | rfl) | rfl) | rfl) | rfl) | rfl
  · refine ⟨isWordChar_of_isBlank hb, ?_⟩
    rintro rfl
    revert hb
    decide
  all_goals decide

/-! ## Names of formatted arguments -/

def IsConventionalName (n : String) : Prop :=
  ∃ c rest, n.toList = c :: rest ∧ (c.isAlpha = true ∨ c = '_') ∧
    ∀ d ∈ rest, Text.isWordChar d = true ∨ d = '-'

mutual

def Element.formattedNames : Element → List String
  | .number n _ => [n]
  | .date n _ => [n]
  | .time n _ => [n]
  | .plural n _ _ arms => n :: armsFormattedNames arms
  | .select n arms => n :: armsFormattedNames arms
  | .literal _ | .argument _ | .pound => []

def armsFormattedNames : List Arm → List String
  | [] => []
  | .mk _ m :: rest => Msg.formattedNames m ++ armsFormattedNames rest

def Msg.formattedNames : Msg → List String
  | [] => []
  | e :: rest => e.formattedNames ++ Msg.formattedNames rest

end

theorem mem_formattedNames {n : String} {m : Msg} :
    n ∈ Msg.formattedNames m ↔ ∃ e ∈ m, n ∈ e.formattedNames := by
  induction m with
  | nil => simp [Msg.formattedNames]
  | cons e rest ih => simp [Msg.formattedNames, ih]

theorem mem_armsFormattedNames {n : String} {arms : List Arm} :
    n ∈ armsFormattedNames arms ↔ ∃ a ∈ arms, n ∈ Msg.formattedNames a.message := by
  induction arms with
  | nil => simp [armsFormattedNames]
  | cons a rest ih =>
    cases a
    simp [armsFormattedNames, ih, Arm.message]

theorem mem_formattedNames_reverse {n : String} {m : Msg} :
    n ∈ Msg.formattedNames m.reverse ↔ n ∈ Msg.formattedNames m := by
  simp only [mem_formattedNames, List.mem_reverse]

theorem mem_formattedNames_flush {n : String} {lit : List Char} {acc : List Element} :
    n ∈ Msg.formattedNames (flush lit acc) ↔ n ∈ Msg.formattedNames acc := by
  unfold flush
  split <;> simp [Msg.formattedNames, Element.formattedNames]

/-! ## What the readers leave is a suffix of what they read -/

theorem quotedRun_suffix (cs lit : List Char) : (quotedRun cs lit).2 <:+ cs := by
  induction cs, lit using quotedRun.induct with
  | case1 => simp [quotedRun]
  | case2 rest lit ih =>
    rw [quotedRun]
    exact ih.trans ((List.suffix_cons _ _).trans (List.suffix_cons _ _))
  | case3 rest lit _ => simp [quotedRun]
  | case4 c rest lit _ _ ih =>
    rw [quotedRun.eq_4 _ _ _ (by assumption) (by assumption)]
    exact ih.trans (List.suffix_cons _ _)

theorem afterApostrophe_suffix (parent : Parent) (cs lit : List Char) :
    (afterApostrophe parent cs lit).2 <:+ cs := by
  unfold afterApostrophe
  split
  · exact List.suffix_cons _ _
  · split
    · exact quotedRun_suffix _ _
    · exact List.suffix_refl _
  · exact List.suffix_refl _

theorem expectChar_suffix {c : Char} {cs rest : List Char} (h : expectChar c cs = .ok rest) :
    rest <:+ cs := by
  unfold expectChar at h
  split at h
  · split at h
    · cases h
      exact List.suffix_cons _ _
    · cases h
  · cases h

theorem readStyle_suffix {cs rest : List Char} {s : Option String}
    (h : readStyle cs = .ok (s, rest)) : rest <:+ cs := by
  unfold readStyle at h
  split at h
  · cases h
    exact List.suffix_cons _ _
  · split at h
    · cases h
    · next body hbody =>
      dsimp only at h
      split at h
      · cases h
      · split at h
        · cases h
        · next rest' hrest =>
          have hsuf : rest' <:+ cs :=
            (expectChar_suffix hrest).trans ((List.dropWhile_suffix _).trans (expectChar_suffix hbody))
          split at h
          · cases h
          · cases h
            exact hsuf

theorem splitSign_suffix (cs : List Char) : (splitSign cs).2 <:+ cs := by
  unfold splitSign
  split
  · exact List.suffix_cons _ _
  · exact List.suffix_refl _

theorem readOffset_suffix {cs rest : List Char} {x : Float} (h : readOffset cs = .ok (x, rest)) :
    rest <:+ cs := by
  unfold readOffset at h
  split at h
  · dsimp only at h
    split at h
    · cases h
    · cases h
      exact (List.dropWhile_suffix _).trans ((List.dropWhile_suffix _).trans
        ((splitSign_suffix _).trans ((List.dropWhile_suffix _).trans
          (List.suffix_append ['o', 'f', 'f', 's', 'e', 't', ':'] _))))
  · cases h
    exact List.suffix_refl _

theorem readName_suffix {cs name after : List Char} (h : readName (skipBlanks cs) = (name, after)) :
    after <:+ cs := by
  have hafter : after = (readName (skipBlanks cs)).2 := by rw [h]
  rw [hafter]
  exact (List.dropWhile_suffix _).trans (List.dropWhile_suffix _)

theorem skipBlanks_cons_suffix {cs rest : List Char} {c : Char} (h : skipBlanks cs = c :: rest) :
    rest <:+ cs :=
  (List.suffix_cons c rest).trans (h ▸ List.dropWhile_suffix _)

theorem expectChar_skipBlanks_suffix {c : Char} {cs rest : List Char}
    (h : expectChar c (skipBlanks cs) = .ok rest) : rest <:+ cs :=
  (expectChar_suffix h).trans (List.dropWhile_suffix _)

theorem choice_body_suffix {cs name after cs3 kind after' cs6 : List Char}
    (hn : readName (skipBlanks cs) = (name, after)) (hc : expectChar ',' (skipBlanks after) = .ok cs3)
    (hk : readName (skipBlanks cs3) = (kind, after'))
    (hc' : expectChar ',' (skipBlanks after') = .ok cs6) : cs6 <:+ cs :=
  (expectChar_skipBlanks_suffix hc').trans ((readName_suffix hk).trans
    ((expectChar_skipBlanks_suffix hc).trans (readName_suffix hn)))

mutual

theorem suffix_of_readsMessage {depth : Nat} {parent : Parent} {cs : List Char} {m : Msg}
    {rest : List Char} : ReadsMessage depth parent cs m rest → rest <:+ cs
  | .mk _ h => suffix_of_readsElements h

theorem suffix_of_readsElements {depth : Nat} {parent : Parent} {cs lit : List Char}
    {acc : List Element} {m : Msg} {out : List Char} :
    ReadsElements depth parent cs lit acc m out → out <:+ cs
  | .eoi => List.suffix_refl _
  | .close => List.suffix_refl _
  | .argument ha h =>
    (suffix_of_readsElements h).trans ((suffix_of_readsArgument ha).trans (List.suffix_cons _ _))
  | .pound h => (suffix_of_readsElements h).trans (List.suffix_cons _ _)
  | .hash _ h => (suffix_of_readsElements h).trans (List.suffix_cons _ _)
  | .quote h =>
    (suffix_of_readsElements h).trans ((afterApostrophe_suffix _ _ _).trans (List.suffix_cons _ _))
  | .char _ _ _ _ h => (suffix_of_readsElements h).trans (List.suffix_cons _ _)

theorem suffix_of_readsArgument {depth : Nat} {cs : List Char} {el : Element} {rest : List Char} :
    ReadsArgument depth cs el rest → rest <:+ cs
  | .simple hn _ hc => (skipBlanks_cons_suffix hc).trans (readName_suffix hn)
  | .formatted hn _ hc hk _ hs =>
    ((readStyle_suffix hs).trans (List.dropWhile_suffix _)).trans
      ((readName_suffix hk).trans ((expectChar_skipBlanks_suffix hc).trans (readName_suffix hn)))
  | .plural hn _ hc hk _ hc' ho ha =>
    (suffix_of_readsArms ha).trans (((readOffset_suffix ho).trans (List.dropWhile_suffix _)).trans
      (choice_body_suffix hn hc hk hc'))
  | .select hn _ hc hk _ hc' ha => (suffix_of_readsArms ha).trans (choice_body_suffix hn hc hk hc')

theorem suffix_of_readsArms {depth : Nat} {parent : Parent} {cs : List Char} {done out : List Arm}
    {rest : List Char} : ReadsArms depth parent cs done out rest → rest <:+ cs
  | .close hc _ => skipBlanks_cons_suffix hc
  | .arm ht _ _ ho hm hc ha =>
    (suffix_of_readsArms ha).trans ((expectChar_suffix hc).trans ((suffix_of_readsMessage hm).trans
      ((skipBlanks_cons_suffix ho).trans (readName_suffix ht))))

end

/-! ## The sniff sees every conventionally named formatted argument -/

theorem hasFormatted_of_suffix {s t : List Char} (hst : s <:+ t) (h : hasFormatted s = true) :
    hasFormatted t = true := by
  obtain ⟨p, rfl⟩ := hst
  induction p with
  | nil => exact h
  | cons c p ih => simp [hasFormatted, ih]

theorem readName_split {cs name after : List Char} (hn : readName cs = (name, after)) :
    cs = name ++ after ∧ ∀ c ∈ after.head?, isNameStop c = true := by
  simp only [readName, Prod.mk.injEq] at hn
  obtain ⟨rfl, rfl⟩ := hn
  refine ⟨List.takeWhile_append_dropWhile.symm, fun c hc => ?_⟩
  have hnot := List.head?_dropWhile_not (fun c => !isNameStop c) cs
  rw [Option.mem_def.1 hc] at hnot
  simpa using hnot

theorem eq_cons_of_expectChar {c : Char} {cs rest : List Char} (h : expectChar c cs = .ok rest) :
    cs = c :: rest := by
  unfold expectChar at h
  split at h
  · split at h
    · next d rest' hd =>
      cases h
      rw [eq_of_beq hd]
    · cases h
  · cases h

theorem startsWithKind_of_stop {kind after : List Char} (hkind : String.ofList kind ∈ formattedKinds)
    (hstop : ∀ c ∈ after.head?, isNameStop c = true) : startsWithKind (kind ++ after) = true := by
  unfold startsWithKind
  apply List.any_eq_true.2
  refine ⟨String.ofList kind, hkind, ?_⟩
  simp only [String.toList_ofList, List.drop_left, Bool.and_eq_true,
    List.isPrefixOf_iff_prefix, List.prefix_append, true_and, Bool.not_eq_true']
  cases after with
  | nil => rfl
  | cons c rest => simp [(not_word_of_isNameStop (hstop c rfl)).1]

theorem opensFormatted_of_reads {cs name after cs3 kind after' : List Char}
    (hn : readName (skipBlanks cs) = (name, after)) (hname : IsConventionalName (String.ofList name))
    (hc : expectChar ',' (skipBlanks after) = .ok cs3)
    (hk : readName (skipBlanks cs3) = (kind, after')) (hkind : String.ofList kind ∈ formattedKinds) :
    opensFormatted cs = true := by
  obtain ⟨c, rest, hcs, hstart, hpart⟩ := hname
  rw [String.toList_ofList] at hcs
  subst hcs
  obtain ⟨hsplit, hstop⟩ := readName_split hn
  obtain ⟨hsplit', hstop'⟩ := readName_split hk
  have hrest : (rest ++ after).dropWhile isNamePart = after := by
    rw [List.dropWhile_append_of_pos (fun d hd => by simpa [isNamePart] using hpart d hd)]
    cases after with
    | nil => rfl
    | cons d more =>
      have hd := not_word_of_isNameStop (hstop d rfl)
      simp [isNamePart, hd.1, hd.2]
  have hcomma := eq_cons_of_expectChar hc
  unfold opensFormatted
  rw [show cs.dropWhile Text.isBlank = skipBlanks cs from rfl, hsplit, List.cons_append]
  simp only [Bool.and_eq_true]
  refine ⟨by simpa [isNameStart] using hstart, ?_⟩
  rw [hrest, show after.dropWhile Text.isBlank = skipBlanks after from rfl, hcomma]
  show startsWithKind (skipBlanks cs3) = true
  rw [hsplit']
  exact startsWithKind_of_stop hkind hstop'

theorem formattedNames_formatted (kind : String) (n : String) (s : Option String) :
    (if kind = "number" then Element.number n s else if kind = "date" then .date n s
      else .time n s).formattedNames = [n] := by
  split_ifs <;> rfl

mutual

theorem sniff_of_readsMessage {name : String} (hconv : IsConventionalName name) {depth : Nat}
    {parent : Parent} {cs : List Char} {m : Msg} {rest : List Char} :
    ReadsMessage depth parent cs m rest → name ∈ Msg.formattedNames m → hasFormatted cs = true
  | .mk _ h, hn => (sniff_of_readsElements hconv h hn).resolve_left (by simp [Msg.formattedNames])

theorem sniff_of_readsElements {name : String} (hconv : IsConventionalName name) {depth : Nat}
    {parent : Parent} {cs lit : List Char} {acc : List Element} {m : Msg} {out : List Char} :
    ReadsElements depth parent cs lit acc m out → name ∈ Msg.formattedNames m →
      name ∈ Msg.formattedNames acc ∨ hasFormatted cs = true
  | .eoi, hn => .inl (mem_formattedNames_flush.1 (mem_formattedNames_reverse.1 hn))
  | .close, hn => .inl (mem_formattedNames_flush.1 (mem_formattedNames_reverse.1 hn))
  | .argument ha h, hn => by
    rcases sniff_of_readsElements hconv h hn with hacc | hr
    · rw [Msg.formattedNames, List.mem_append, mem_formattedNames_flush] at hacc
      rcases hacc with hel | hacc
      · exact .inr (sniff_of_readsArgument hconv ha hel)
      · exact .inl hacc
    · exact .inr (hasFormatted_of_suffix
        ((suffix_of_readsArgument ha).trans (List.suffix_cons _ _)) hr)
  | .pound h, hn => by
    rcases sniff_of_readsElements hconv h hn with hacc | hr
    · rw [Msg.formattedNames, List.mem_append, mem_formattedNames_flush] at hacc
      rcases hacc with hel | hacc
      · simp [Element.formattedNames] at hel
      · exact .inl hacc
    · exact .inr (hasFormatted_of_suffix (List.suffix_cons _ _) hr)
  | .hash _ h, hn =>
    (sniff_of_readsElements hconv h hn).imp_right (hasFormatted_of_suffix (List.suffix_cons _ _))
  | .quote h, hn =>
    (sniff_of_readsElements hconv h hn).imp_right
      (hasFormatted_of_suffix ((afterApostrophe_suffix _ _ _).trans (List.suffix_cons _ _)))
  | .char _ _ _ _ h, hn =>
    (sniff_of_readsElements hconv h hn).imp_right (hasFormatted_of_suffix (List.suffix_cons _ _))

theorem sniff_of_readsArgument {name : String} (hconv : IsConventionalName name) {depth : Nat}
    {cs : List Char} {el : Element} {rest : List Char} :
    ReadsArgument depth cs el rest → name ∈ el.formattedNames → hasFormatted ('{' :: cs) = true
  | .simple .., hn => by simp [Element.formattedNames] at hn
  | .formatted hn _ hc hk hkind _, hnm => by
    rw [formattedNames_formatted, List.mem_singleton] at hnm
    subst hnm
    simp [hasFormatted, opensFormatted_of_reads hn hconv hc hk (by rcases hkind with h | h | h <;>
      simp [h, formattedKinds])]
  | .plural hn _ hc hk hkind hc' ho ha, hnm => by
    simp only [Element.formattedNames, List.mem_cons] at hnm
    rcases hnm with rfl | harms
    · simp [hasFormatted, opensFormatted_of_reads hn hconv hc hk (by rcases hkind with h | h <;>
        simp [h, formattedKinds])]
    · have hbody := (sniff_of_readsArms hconv ha harms).resolve_left (by simp [armsFormattedNames])
      exact hasFormatted_of_suffix (((readOffset_suffix ho).trans (List.dropWhile_suffix _)).trans
        ((choice_body_suffix hn hc hk hc').trans (List.suffix_cons _ _))) hbody
  | .select hn _ hc hk hkind hc' ha, hnm => by
    simp only [Element.formattedNames, List.mem_cons] at hnm
    rcases hnm with rfl | harms
    · simp [hasFormatted, opensFormatted_of_reads hn hconv hc hk (by simp [hkind, formattedKinds])]
    · have hbody := (sniff_of_readsArms hconv ha harms).resolve_left (by simp [armsFormattedNames])
      exact hasFormatted_of_suffix ((choice_body_suffix hn hc hk hc').trans (List.suffix_cons _ _))
        hbody

theorem sniff_of_readsArms {name : String} (hconv : IsConventionalName name) {depth : Nat}
    {parent : Parent} {cs : List Char} {done out : List Arm} {rest : List Char} :
    ReadsArms depth parent cs done out rest → name ∈ armsFormattedNames out →
      name ∈ armsFormattedNames done ∨ hasFormatted cs = true
  | .close _ hf, hn => .inl ((finishArms_ok hf).1 ▸ hn)
  | .arm ht _ _ ho hm hc ha, hn => by
    have hbody := (skipBlanks_cons_suffix ho).trans (readName_suffix ht)
    rcases sniff_of_readsArms hconv ha hn with hdone | hr
    · obtain ⟨a, ha', hna⟩ := mem_armsFormattedNames.1 hdone
      rcases List.mem_append.1 ha' with ha' | ha'
      · exact .inl (mem_armsFormattedNames.2 ⟨a, ha', hna⟩)
      · rw [List.mem_singleton] at ha'
        subst ha'
        exact .inr (hasFormatted_of_suffix hbody (sniff_of_readsMessage hconv hm hna))
    · exact .inr (hasFormatted_of_suffix
        ((expectChar_suffix hc).trans ((suffix_of_readsMessage hm).trans hbody)) hr)

end

/-- A template the reader accepts looks like a message whenever its message holds, at any
depth, a formatted argument or a choice with a conventional name. -/
theorem looksLikeMessage_of_parse {t : String} {m : Msg} (h : parse t = .ok m) {name : String}
    (hname : name ∈ Msg.formattedNames m) (hconv : IsConventionalName name) :
    looksLikeMessage t = true :=
  sniff_of_readsMessage hconv (parse_ok_iff.1 h) hname

/-- A number argument inside the arm of a choice by value is seen through the canonical text. -/
theorem nested_number_looksLikeMessage :
    parse (Msg.print [.select "g" [.mk (.keyword "other") [.number "n" none]]]) =
        .ok [.select "g" [.mk (.keyword "other") [.number "n" none]]] ∧
      "n" ∈ Msg.formattedNames [.select "g" [.mk (.keyword "other") [.number "n" none]]] ∧
      IsConventionalName "n" ∧
      looksLikeMessage (Msg.print [.select "g" [.mk (.keyword "other") [.number "n" none]]]) = true := by
  have hwf : Msg.WellFormed [.select "g" [.mk (.keyword "other") [.number "n" none]]] := by
    refine ⟨⟨?_, by simp⟩, by decide⟩
    simp only [ShapedElements, Element.Shaped, ShapedArms, Selector.Allowed, ArmsShaped, and_true]
    refine ⟨isToken_of_isAlpha (by simp) (by simp), ⟨by simp, by simp, by simp [Arm.selector]⟩,
      ⟨isToken_of_isAlpha (by simp) (by simp), by simp⟩, ⟨isToken_of_isAlpha (by simp) (by simp),
        by simp⟩, by simp⟩
  have hp := parse_print hwf
  have hname : "n" ∈ Msg.formattedNames [.select "g" [.mk (.keyword "other") [.number "n" none]]] := by
    simp [Msg.formattedNames, Element.formattedNames, armsFormattedNames]
  have hconv : IsConventionalName "n" := ⟨'n', [], by simp, Or.inl (by decide), by simp⟩
  exact ⟨hp, hname, hconv, looksLikeMessage_of_parse hp hname hconv⟩

end Phrasebook.Message
