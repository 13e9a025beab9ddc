import Phrasebook.Proofs.Message.Sniff

/-!
# Where the reader stands

The reader holds its place in a message as the characters not yet read, so each place it holds
is a suffix of the message and each byte offset it reports is the size of what precedes that
suffix: a character boundary, never past the end.

* `StopsIn cs st`, `Within cs r`   a stop lies in `cs`; a reader's answer on `cs` leaves a
  suffix of `cs` unread or stops in `cs`;
* `within_readMessage` and its three companions   every reader, at every depth and on every
  input, answers within its input;
* `parse_offset_isValid`   every offset `parse` reports is a character boundary;
* `readMessage_too_deep`   past the nesting limit a message is refused where it starts, before a
  character is read;
* `parse_nestedSelects`   however deep choices nest, the reader stops in the body of the 33rd,
  at an offset that does not depend on the rest of the message.

The main statement is `reader_stays_in_bounds`.
-/

namespace Phrasebook.Message

/-- the stop `st` lies in `cs`: the bytes it leaves are those of a suffix of `cs` -/
def StopsIn (cs : List Char) (st : Stop) : Prop :=
  ∃ suf, suf <:+ cs ∧ st.bytesLeft = byteSize suf

theorem StopsIn.mono {cs cs' : List Char} {st : Stop} (h : StopsIn cs' st) (hs : cs' <:+ cs) :
    StopsIn cs st :=
  let ⟨suf, hsuf, hb⟩ := h
  ⟨suf, hsuf.trans hs, hb⟩

theorem stopsIn_stopAt (reason : SyntaxReason) {cs suf : List Char} (h : suf <:+ cs) :
    StopsIn cs (stopAt reason suf) :=
  ⟨suf, h, rfl⟩

/-- a reader's answer on `cs` stays in `cs`: it leaves a suffix unread, or it stops in `cs` -/
def Within {α : Type} {P : α × List Char → Prop} (cs : List Char) :
    Except Stop {p // P p} → Prop
  | .ok p => p.1.2 <:+ cs
  | .error st => StopsIn cs st

section Within

variable {α : Type} {P : α × List Char → Prop} {cs : List Char}

@[simp] theorem within_ok (p : {p // P p}) : Within cs (.ok p) ↔ p.1.2 <:+ cs := Iff.rfl

@[simp] theorem within_error (st : Stop) :
    Within cs (.error st : Except Stop {p // P p}) ↔ StopsIn cs st := Iff.rfl

theorem Within.stops {r : List Char} {res : Except Stop {p // P p}} {st : Stop}
    (h : Within r res) (he : res = .error st) (hr : r <:+ cs) : StopsIn cs st := by
  rw [he, within_error] at h
  exact h.mono hr

theorem Within.rest {r : List Char} {res : Except Stop {p // P p}} {p : {p // P p}}
    (h : Within r res) (he : res = .ok p) (hr : r <:+ cs) : p.1.2 <:+ cs := by
  rw [he, within_ok] at h
  exact h.trans hr

end Within

/-! ## The readers of the parts of an argument -/

theorem expectChar_stops {c : Char} {cs : List Char} {st : Stop}
    (h : expectChar c cs = .error st) : StopsIn cs st := by
  unfold expectChar at h
  split at h
  · split at h
    · cases h
    · cases h
      exact stopsIn_stopAt _ (List.suffix_refl _)
  · cases h
    exact stopsIn_stopAt _ (List.suffix_refl _)

theorem readStyle_stops {cs : List Char} {st : Stop} (h : readStyle cs = .error st) :
    StopsIn cs st := by
  unfold readStyle at h
  split at h
  · cases h
  split at h
  · next e he =>
    cases h
    exact expectChar_stops he
  next body hb =>
  have hafter : body.dropWhile (fun c => c != '}' && c != '{') <:+ cs :=
    (List.dropWhile_suffix _).trans (expectChar_suffix hb)
  dsimp only at h
  split at h
  · cases h
    exact stopsIn_stopAt _ hafter
  split at h
  · next e he =>
    cases h
    exact (expectChar_stops he).mono hafter
  next rest hr =>
  split at h
  · cases h
    exact stopsIn_stopAt _ ((expectChar_suffix hr).trans hafter)
  · cases h

theorem readOffset_stops {cs : List Char} {st : Stop} (h : readOffset cs = .error st) :
    StopsIn cs st := by
  unfold readOffset at h
  split at h
  · dsimp only at h
    split at h
    · cases h
      exact stopsIn_stopAt _ ((List.dropWhile_suffix _).trans ((splitSign_suffix _).trans
        ((List.dropWhile_suffix _).trans (List.suffix_append ['o', 'f', 'f', 's', 'e', 't', ':'] _))))
    · cases h
  · cases h

theorem readSelector_stops {parent : Parent} {token : String} {cs after : List Char} {st : Stop}
    (h : readSelector parent token cs after = .error st) (hafter : after <:+ cs) :
    StopsIn cs st := by
  unfold readSelector at h
  split at h
  · split at h
    · cases h
      exact stopsIn_stopAt _ hafter
    · split at h
      · cases h
      · cases h
        exact stopsIn_stopAt _ (List.suffix_refl _)
  · cases h
    exact stopsIn_stopAt _ hafter
  · cases h

theorem finishArms_stops {arms : List Arm} {rest : List Char} {st : Stop}
    (h : finishArms arms rest = .error st) : StopsIn rest st := by
  unfold finishArms at h
  split at h
  · cases h
    exact stopsIn_stopAt _ (List.suffix_refl _)
  · split at h
    · cases h
      exact stopsIn_stopAt _ (List.suffix_refl _)
    · cases h

/-! ## Every reader answers within its input -/

mutual

theorem within_readMessage (depth : Nat) (parent : Parent) (cs : List Char) :
    Within cs (readMessage depth parent cs) := by
  rw [readMessage.eq_1]
  split
  · exact stopsIn_stopAt _ (List.suffix_refl _)
  · exact within_readElements depth parent cs [] []
termination_by 2 * cs.length + 1
decreasing_by omega

theorem within_readElements (depth : Nat) (parent : Parent) (cs lit : List Char)
    (acc : List Element) : Within cs (readElements depth parent cs lit acc) := by
  rcases hcs : cs with _ | ⟨c, r⟩
  · rw [readElements.eq_1]
    exact List.suffix_refl _
  have hr : r <:+ c :: r := List.suffix_cons c r
  by_cases h1 : c = '}'
  · subst h1
    rw [readElements.eq_2]
    exact List.suffix_refl _
  by_cases h2 : c = '{'
  · subst h2
    rw [readElements.eq_3]
    have harg := within_readArgument depth r
    split
    · next e he => exact harg.stops he hr
    · next el r' hlen' he =>
      have hr' : r' <:+ '{' :: r := harg.rest he hr
      have hl : r'.length ≤ r.length := hlen'
      have hrest := within_readElements depth parent r' [] (el :: flush lit acc)
      split
      · next e he' => exact hrest.stops he' hr'
      · next p _ he' => exact hrest.rest he' hr'
  by_cases h3 : c = '#'
  · subst h3
    rw [readElements.eq_4]
    split
    · have hrest := within_readElements depth parent r [] (.pound :: flush lit acc)
      split
      · next e he => exact hrest.stops he hr
      · next p _ he => exact hrest.rest he hr
    · have hrest := within_readElements depth parent r ('#' :: lit) acc
      split
      · next e he => exact hrest.stops he hr
      · next p _ he => exact hrest.rest he hr
  by_cases h4 : c = '\''
  · subst h4
    rw [readElements.eq_5]
    split
    next lit' r' hq =>
    have hq' : r' <:+ r := by
      have := afterApostrophe_suffix parent r lit
      rw [hq] at this
      exact this
    have hl : r'.length ≤ r.length := hq'.length_le
    have hrest := within_readElements depth parent r' lit' acc
    split
    · next e he => exact hrest.stops he (hq'.trans hr)
    · next p _ he => exact hrest.rest he (hq'.trans hr)
  rw [readElements.eq_6 _ _ _ _ _ _ h1 h2 h3 h4]
  have hrest := within_readElements depth parent r (c :: lit) acc
  split
  · next e he => exact hrest.stops he hr
  · next p _ he => exact hrest.rest he hr
termination_by 2 * cs.length
decreasing_by all_goals (simp only [List.length_cons] at *; omega)

theorem within_readArgument (depth : Nat) (cs : List Char) :
    Within cs (readArgument depth cs) := by
  have h1 : (readName (skipBlanks cs)).2 <:+ cs :=
    (List.dropWhile_suffix _).trans (List.dropWhile_suffix _)
  have h2 : skipBlanks (readName (skipBlanks cs)).2 <:+ cs := (List.dropWhile_suffix _).trans h1
  rw [readArgument.eq_1]
  split
  · exact stopsIn_stopAt _ h1
  split
  · next rest hm =>
    rw [within_ok]
    exact (List.suffix_cons _ _).trans (hm ▸ h2)
  split
  · next e he => exact (expectChar_stops he).mono h2
  next cs3 hc3 =>
  have h4 : skipBlanks cs3 <:+ cs := (List.dropWhile_suffix _).trans ((expectChar_suffix hc3).trans h2)
  have h5 : skipBlanks (readName (skipBlanks cs3)).2 <:+ cs :=
    (List.dropWhile_suffix _).trans ((List.dropWhile_suffix _).trans h4)
  dsimp only
  split
  · split
    · next e he => exact (readStyle_stops he).mono h5
    · next style rest hs =>
      rw [within_ok]
      exact (readStyle_suffix hs).trans h5
  split
  · split
    · next e he => exact (expectChar_stops he).mono h5
    next cs6 hc6 =>
    have h6 : skipBlanks cs6 <:+ cs := (List.dropWhile_suffix _).trans ((expectChar_suffix hc6).trans h5)
    split
    · next e he => exact (readOffset_stops he).mono h6
    next offset cs7 ho =>
    have h7 : cs7 <:+ cs := (readOffset_suffix ho).trans h6
    have hl : cs7.length ≤ cs.length := h7.length_le
    have harms := within_readArms depth .plural cs7 []
    split
    · next e he => exact harms.stops he h7
    · next arms rest _ he => exact harms.rest he h7
  split
  · split
    · next e he => exact (expectChar_stops he).mono h5
    next cs6 hc6 =>
    have h6 : cs6 <:+ cs := (expectChar_suffix hc6).trans h5
    have hl : cs6.length ≤ cs.length := h6.length_le
    have harms := within_readArms depth .other cs6 []
    split
    · next e he => exact harms.stops he h6
    · next arms rest _ he => exact harms.rest he h6
  split
  · exact stopsIn_stopAt _ h5
  · exact stopsIn_stopAt _ h4
termination_by 2 * cs.length + 1
decreasing_by all_goals omega

theorem within_readArms (depth : Nat) (parent : Parent) (cs : List Char) (arms : List Arm) :
    Within cs (readArms depth parent cs arms) := by
  have h1 : skipBlanks cs <:+ cs := List.dropWhile_suffix _
  rw [readArms.eq_1]
  split
  · next rest hm =>
    have hrest : rest <:+ cs := (List.suffix_cons _ _).trans (hm ▸ h1)
    split
    · next e he => exact (finishArms_stops he).mono hrest
    · rw [within_ok]
      exact hrest
  · exact stopsIn_stopAt _ List.nil_suffix
  next c more hm =>
  have h2 : (readName (skipBlanks cs)).2 <:+ cs := (List.dropWhile_suffix _).trans h1
  dsimp only
  split
  · next e he => exact (readSelector_stops he (List.dropWhile_suffix _)).mono h1
  next sel _ =>
  split
  · exact stopsIn_stopAt _ h1
  have h3 : skipBlanks (readName (skipBlanks cs)).2 <:+ cs := (List.dropWhile_suffix _).trans h2
  split
  · next body hb =>
    have hbody : body <:+ cs := (List.suffix_cons _ _).trans (hb ▸ h3)
    have hl : body.length < cs.length := by
      have := (hb ▸ h3 : ('{' :: body) <:+ cs).length_le
      simp only [List.length_cons] at this
      omega
    have hmsg := within_readMessage (depth + 1) parent body
    split
    · next e he => exact hmsg.stops he hbody
    · next message r _ he =>
      have hr : r <:+ cs := hmsg.rest he hbody
      split
      · next e he' => exact (expectChar_stops he').mono hr
      · next r2 hc =>
        have hr2 : r2 <:+ cs := (expectChar_suffix hc).trans hr
        have hl2 : r2.length < cs.length := by
          have := expectChar_length hc
          have := hr.length_le
          omega
        have hnext := within_readArms depth parent r2 (arms ++ [.mk sel message])
        split
        · next e he'' => exact hnext.stops he'' hr2
        · next p _ he'' => exact hnext.rest he'' hr2
  · exact stopsIn_stopAt _ h3
termination_by 2 * cs.length
decreasing_by all_goals omega

end

/-! ## Offsets are character boundaries -/

theorem byteSize_append (xs ys : List Char) : byteSize (xs ++ ys) = byteSize xs + byteSize ys := by
  simp only [byteSize, String.ofList_append, String.utf8ByteSize_append]

theorem isValid_of_suffix {s : String} {suf : List Char} (h : suf <:+ s.toList) :
    (String.Pos.Raw.mk (byteSize s.toList - byteSize suf)).IsValid s := by
  obtain ⟨pre, hpre⟩ := h
  rw [String.Pos.Raw.isValid_iff_exists_take_toList]
  refine ⟨pre.length, ?_⟩
  rw [← hpre, byteSize_append, List.take_left]
  simp [byteSize]

/-- every offset `parse` reports is a character boundary of the message, so at most its size -/
theorem parse_offset_isValid {s : String} {e : SyntaxError} (h : parse s = .error e) :
    (String.Pos.Raw.mk e.offset).IsValid s := by
  have hw := within_readMessage 0 .root s.toList
  unfold parse at h
  dsimp only at h
  split at h
  · next st hst =>
    cases h
    obtain ⟨suf, hsuf, hb⟩ := hw.stops hst (List.suffix_refl _)
    rw [hb]
    exact isValid_of_suffix hsuf
  · next m rest _ hok =>
    split at h
    · cases h
    · cases h
      exact isValid_of_suffix (hw.rest hok (List.suffix_refl _))

/-! ## Nesting stops at a fixed depth -/

/-- past the nesting limit a message is refused where it starts, before a character is read -/
theorem readMessage_too_deep {depth : Nat} (parent : Parent) (cs : List Char)
    (h : maxDepth < depth) : readMessage depth parent cs = .error (stopAt .nestedTooDeeply cs) := by
  rw [readMessage.eq_1, if_pos h]

def selectOpen : List Char := "\x7bg, select, other \x7b".toList

def nestedSelects : Nat → List Char
  | 0 => []
  | k + 1 => selectOpen ++ nestedSelects k

theorem nestedSelects_add (a b : Nat) :
    nestedSelects (a + b) = nestedSelects a ++ nestedSelects b := by
  induction a with
  | zero => simp only [Nat.zero_add, nestedSelects, List.nil_append]
  | succ a ih =>
    rw [Nat.add_right_comm]
    simp only [nestedSelects, ih, List.append_assoc]

theorem byteSize_nestedSelects (k : Nat) : byteSize (nestedSelects k) = 19 * k := by
  induction k with
  | zero => rfl
  | succ k ih =>
    have hopen : byteSize selectOpen = 19 := by decide +kernel
    rw [nestedSelects, byteSize_append, ih, hopen]
    omega

theorem readArms_other_open (depth : Nat) (rest : List Char) {st : Stop}
    (h : readMessage (depth + 1) .other rest = .error st) :
    readArms depth .other (" other \x7b".toList ++ rest) [] = .error st := by
  have hword : "other".toList ≠ [] ∧ ∀ c ∈ "other".toList, isNameStop c = false := by
    simp [isNameStop]; decide
  have hsplit : " other \x7b".toList ++ rest = ' ' :: ("other".toList ++ ' ' :: '{' :: rest) := rfl
  have hname : readName (skipBlanks (" other \x7b".toList ++ rest)) =
      ("other".toList, ' ' :: '{' :: rest) := by
    rw [hsplit, skipBlanks_space]
    exact readName_token hword (stop_head (by decide) _)
  have hcs1 : skipBlanks (" other \x7b".toList ++ rest) =
      'o' :: ("ther".toList ++ ' ' :: '{' :: rest) := by
    rw [hsplit, skipBlanks_space, skipBlanks_token hword]
    rfl
  have hsel : readSelector .other "other" (skipBlanks (" other \x7b".toList ++ rest))
      (' ' :: '{' :: rest) = .ok (.keyword "other") := rfl
  have hopen : skipBlanks (' ' :: '{' :: rest) = '{' :: rest := by
    rw [skipBlanks_space]
    exact skipBlanks_of_head (blank_head (by decide) _)
  rw [readArms.eq_1]
  split
  · next r hr => rw [hcs1] at hr; cases hr
  · next hr => rw [hcs1] at hr; cases hr
  simp only [hname, String.ofList_toList, hsel, List.any_nil, Bool.false_eq_true, ↓reduceIte]
  split
  · next body hb =>
    rw [hname, hopen] at hb
    cases hb
    rw [h]
  · next hb => exact absurd (by rw [hname, hopen]) (hb rest)

theorem readArgument_select_open (depth : Nat) (cs : List Char) {st : Stop}
    (h : readArms depth .other cs [] = .error st) :
    readArgument depth ("g, select,".toList ++ cs) = .error st := by
  have hg : ['g'] ≠ [] ∧ ∀ c ∈ ['g'], isNameStop c = false := by
    simp [isNameStop]; decide
  have hword : "select".toList ≠ [] ∧ ∀ c ∈ "select".toList, isNameStop c = false := by
    simp [isNameStop]; decide
  have hname : readName (skipBlanks ("g, select,".toList ++ cs)) =
      (['g'], ',' :: ' ' :: ("select".toList ++ ',' :: cs)) := by
    rw [show "g, select,".toList ++ cs = ['g'] ++ ',' :: ' ' :: ("select".toList ++ ',' :: cs)
      from rfl]
    exact readName_token hg (stop_head (by decide) _)
  have hcs2 : skipBlanks (readName (skipBlanks ("g, select,".toList ++ cs))).2 =
      ',' :: ' ' :: ("select".toList ++ ',' :: cs) := by
    rw [hname]
    exact skipBlanks_of_head (blank_head (by decide) _)
  have hkind : readName (skipBlanks (' ' :: ("select".toList ++ ',' :: cs))) =
      ("select".toList, ',' :: cs) := by
    rw [skipBlanks_space]
    exact readName_token hword (stop_head (by decide) _)
  have hcs5 : skipBlanks (readName (skipBlanks (' ' :: ("select".toList ++ ',' :: cs)))).2 =
      ',' :: cs := by
    rw [hkind]
    exact skipBlanks_of_head (blank_head (by decide) _)
  rw [readArgument.eq_1]
  simp only [hname]
  split
  · next hempty => exact absurd hempty (by decide)
  split
  · next rest hm => rw [hcs2] at hm; cases hm
  split
  · next e he => rw [hcs2] at he; cases he
  next cs3 hc3 =>
  rw [hcs2] at hc3
  cases hc3
  simp only [hkind, String.ofList_toList]
  split
  · next hk => exact absurd hk (by decide)
  split
  · next hk => exact absurd hk (by decide)
  split
  · split
    · next e he => rw [hcs5] at he; cases he
    · next cs6 hc6 =>
      rw [hcs5] at hc6
      cases hc6
      rw [h]
  · next hk => exact absurd trivial hk

theorem readMessage_select_open {depth : Nat} (parent : Parent) (rest : List Char) {st : Stop}
    (hd : depth ≤ maxDepth) (h : readMessage (depth + 1) .other rest = .error st) :
    readMessage depth parent (selectOpen ++ rest) = .error st := by
  have harg := readArgument_select_open depth _ (readArms_other_open depth rest h)
  rw [readMessage.eq_1, if_neg (Nat.not_lt.2 hd),
    show selectOpen ++ rest = '{' :: ("g, select,".toList ++ (" other \x7b".toList ++ rest)) from rfl,
    readElements.eq_3]
  split
  · next e he =>
    rw [harg] at he
    cases he
    rfl
  · next el r _ he =>
    rw [harg] at he
    cases he

theorem readMessage_nestedSelects (tail : List Char) :
    ∀ k depth (parent : Parent), depth ≤ maxDepth + 1 → maxDepth < depth + k →
      readMessage depth parent (nestedSelects k ++ tail) =
        .error (stopAt .nestedTooDeeply (nestedSelects (depth + k - (maxDepth + 1)) ++ tail)) := by
  intro k
  induction k with
  | zero =>
    intro depth parent hd hk
    have hidx : depth + 0 - (maxDepth + 1) = 0 := by omega
    rw [hidx]
    exact readMessage_too_deep parent _ (by omega)
  | succ k ih =>
    intro depth parent hd hk
    by_cases hdeep : maxDepth < depth
    · have hidx : depth + (k + 1) - (maxDepth + 1) = k + 1 := by omega
      rw [hidx]
      exact readMessage_too_deep parent _ hdeep
    · have hidx : depth + (k + 1) - (maxDepth + 1) = depth + 1 + k - (maxDepth + 1) := by omega
      rw [hidx, nestedSelects, List.append_assoc]
      exact readMessage_select_open parent _ (Nat.not_lt.1 hdeep)
        (ih (depth + 1) .other (by omega) (by omega))

/-- however deep choices nest, the reader refuses the body of the 33rd where it starts: the
offset is the same for every message that opens more choices, whatever follows -/
theorem parse_nestedSelects {k : Nat} (tail : List Char) (hk : maxDepth < k) :
    parse (String.ofList (nestedSelects k ++ tail)) =
      .error ⟨19 * (maxDepth + 1), .nestedTooDeeply⟩ := by
  have hsplit : nestedSelects k ++ tail =
      nestedSelects (maxDepth + 1) ++ (nestedSelects (k - (maxDepth + 1)) ++ tail) := by
    rw [← List.append_assoc, ← nestedSelects_add, Nat.add_sub_cancel' (by omega)]
  have hread := readMessage_nestedSelects tail k 0 .root (by omega) (by omega)
  rw [Nat.zero_add] at hread
  unfold parse
  dsimp only
  rw [String.toList_ofList, hread]
  dsimp only [stopAt]
  rw [hsplit, byteSize_append, byteSize_append, byteSize_nestedSelects]
  congr 2
  omega

/-- where the reader stands: the places it holds are suffixes of what it was given, the offsets
it reports are character boundaries, and however deep choices nest it stops one level past the
limit, before reading on -/
structure ReaderBounds : Prop where
  message_within : ∀ depth parent cs, Within cs (readMessage depth parent cs)
  elements_within : ∀ depth parent cs lit acc, Within cs (readElements depth parent cs lit acc)
  argument_within : ∀ depth cs, Within cs (readArgument depth cs)
  arms_within : ∀ depth parent cs arms, Within cs (readArms depth parent cs arms)
  position_isValid : ∀ (s : String) suf, suf <:+ s.toList →
    (String.Pos.Raw.mk (byteSize s.toList - byteSize suf)).IsValid s
  offset_isValid : ∀ s e, parse s = .error e → (String.Pos.Raw.mk e.offset).IsValid s
  too_deep : ∀ depth parent cs, maxDepth < depth →
    readMessage depth parent cs = .error (stopAt .nestedTooDeeply cs)
  nesting_cutoff : ∀ k tail, maxDepth < k →
    parse (String.ofList (nestedSelects k ++ tail)) = .error ⟨19 * (maxDepth + 1), .nestedTooDeeply⟩

theorem reader_stays_in_bounds : ReaderBounds where
  message_within := within_readMessage
  elements_within := within_readElements
  argument_within := within_readArgument
  arms_within := within_readArms
  position_isValid _ _ h := isValid_of_suffix h
  offset_isValid _ _ h := parse_offset_isValid h
  too_deep _ parent cs h := readMessage_too_deep parent cs h
  nesting_cutoff _ tail hk := parse_nestedSelects tail hk

end Phrasebook.Message
