import Mathlib
import Phrasebook.Message.Parse

/-!
# Successful reads as derivations

The reader of `Message.Parse` is a family of four mutually recursive functions over the input
characters. Here a successful run of each is described by an inductive relation with one rule
per successful path of the function:

* `ReadsMessage depth parent cs m rest`        `readMessage` reads `m` from `cs`, leaving `rest`;
* `ReadsElements depth parent cs lit acc m rest`  the element loop, with pending text `lit` and
                                               the elements `acc` read so far (both reversed);
* `ReadsArgument depth cs el rest`              an argument after its opening brace;
* `ReadsArms depth parent cs arms out rest`     the arms of a choice, `arms` read so far.

The main statements are `readMessage_ok_iff` (the relation is exactly the set of successful
runs) and `parse_ok_iff`. Later proofs about what the reader returns go by recursion on
derivations instead of on the input.
-/

namespace Phrasebook.Message

mutual

/-- `readMessage depth parent cs` returns the message `m` and the rest `rest` -/
inductive ReadsMessage : Nat → Parent → List Char → Msg → List Char → Prop
  | mk {depth parent cs m rest} (hd : depth ≤ maxDepth)
      (h : ReadsElements depth parent cs [] [] m rest) : ReadsMessage depth parent cs m rest

/-- `readElements depth parent cs lit acc` returns `m` and `rest` -/
inductive ReadsElements : Nat → Parent → List Char → List Char → List Element → Msg → List Char → Prop
  | eoi {depth parent lit acc} : ReadsElements depth parent [] lit acc (flush lit acc).reverse []
  | close {depth parent rest lit acc} :
      ReadsElements depth parent ('}' :: rest) lit acc (flush lit acc).reverse ('}' :: rest)
  | argument {depth parent rest lit acc el r m out} (ha : ReadsArgument depth rest el r)
      (h : ReadsElements depth parent r [] (el :: flush lit acc) m out) :
      ReadsElements depth parent ('{' :: rest) lit acc m out
  | pound {depth rest lit acc m out}
      (h : ReadsElements depth .plural rest [] (.pound :: flush lit acc) m out) :
      ReadsElements depth .plural ('#' :: rest) lit acc m out
  | hash {depth parent rest lit acc m out} (hp : parent ≠ .plural)
      (h : ReadsElements depth parent rest ('#' :: lit) acc m out) :
      ReadsElements depth parent ('#' :: rest) lit acc m out
  | quote {depth parent rest lit acc m out}
      (h : ReadsElements depth parent (afterApostrophe parent rest lit).2
        (afterApostrophe parent rest lit).1 acc m out) :
      ReadsElements depth parent ('\'' :: rest) lit acc m out
  | char {depth parent c rest lit acc m out} (h1 : c ≠ '}') (h2 : c ≠ '{') (h3 : c ≠ '#')
      (h4 : c ≠ '\'') (h : ReadsElements depth parent rest (c :: lit) acc m out) :
      ReadsElements depth parent (c :: rest) lit acc m out

/-- `readArgument depth cs` returns the element `el` and the rest `rest` -/
inductive ReadsArgument : Nat → List Char → Element → List Char → Prop
  | simple {depth cs name after rest} (hn : readName (skipBlanks cs) = (name, after))
      (hne : name ≠ []) (hc : skipBlanks after = '}' :: rest) :
      ReadsArgument depth cs (.argument (String.ofList name)) rest
  | formatted {depth cs name after cs3 kind after' style rest}
      (hn : readName (skipBlanks cs) = (name, after)) (hne : name ≠ [])
      (hc : expectChar ',' (skipBlanks after) = .ok cs3)
      (hk : readName (skipBlanks cs3) = (kind, after'))
      (hkind : String.ofList kind = "number" ∨ String.ofList kind = "date" ∨
        String.ofList kind = "time")
      (hs : readStyle (skipBlanks after') = .ok (style, rest)) :
      ReadsArgument depth cs
        (if String.ofList kind = "number" then .number (String.ofList name) style
          else if String.ofList kind = "date" then .date (String.ofList name) style
          else .time (String.ofList name) style) rest
  | plural {depth cs name after cs3 kind after' cs6 offset cs7 arms rest}
      (hn : readName (skipBlanks cs) = (name, after)) (hne : name ≠ [])
      (hc : expectChar ',' (skipBlanks after) = .ok cs3)
      (hk : readName (skipBlanks cs3) = (kind, after'))
      (hkind : String.ofList kind = "plural" ∨ String.ofList kind = "selectordinal")
      (hc' : expectChar ',' (skipBlanks after') = .ok cs6)
      (ho : readOffset (skipBlanks cs6) = .ok (offset, cs7))
      (ha : ReadsArms depth .plural cs7 [] arms rest) :
      ReadsArgument depth cs
        (.plural (String.ofList name)
          (if String.ofList kind = "plural" then .cardinal else .ordinal) offset arms) rest
  | select {depth cs name after cs3 kind after' cs6 arms rest}
      (hn : readName (skipBlanks cs) = (name, after)) (hne : name ≠ [])
      (hc : expectChar ',' (skipBlanks after) = .ok cs3)
      (hk : readName (skipBlanks cs3) = (kind, after'))
      (hkind : String.ofList kind = "select")
      (hc' : expectChar ',' (skipBlanks after') = .ok cs6)
      (ha : ReadsArms depth .other cs6 [] arms rest) :
      ReadsArgument depth cs (.select (String.ofList name) arms) rest

/-- `readArms depth parent cs arms` returns the arms `out` and the rest `rest` -/
inductive ReadsArms : Nat → Parent → List Char → List Arm → List Arm → List Char → Prop
  | close {depth parent cs arms rest out} (hc : skipBlanks cs = '}' :: rest)
      (hf : finishArms arms rest = .ok out) : ReadsArms depth parent cs arms out rest
  | arm {depth parent cs arms token after sel body message r r2 out rest}
      (ht : readName (skipBlanks cs) = (token, after))
      (hs : readSelector parent (String.ofList token) (skipBlanks cs) after = .ok sel)
      (hnew : arms.any (fun a => a.selector.same sel) = false)
      (ho : skipBlanks after = '{' :: body)
      (hm : ReadsMessage (depth + 1) parent body message r)
      (hc : expectChar '}' r = .ok r2)
      (ha : ReadsArms depth parent r2 (arms ++ [.mk sel message]) out rest) :
      ReadsArms depth parent cs arms out rest

end


theorem map_val_ok {α : Type} {P : α → Prop} {e : Except Stop {x // P x}} {a : α} :
    e.map Subtype.val = .ok a ↔ ∃ h, e = .ok ⟨a, h⟩ := by
  cases e with
  | error e => simp [Except.map]
  | ok v =>
    obtain ⟨v, hv⟩ := v
    simp only [Except.map, Except.ok.injEq]
    constructor
    · rintro rfl; exact ⟨hv, rfl⟩
    · rintro ⟨_, h⟩; cases h; rfl

mutual

theorem readsMessage_of_ok {depth : Nat} {parent : Parent} {cs : List Char} {m : Msg}
    {rest : List Char} (h : (readMessage depth parent cs).map Subtype.val = .ok (m, rest)) :
    ReadsMessage depth parent cs m rest := by
  rw [readMessage.eq_1] at h
  split at h
  · simp [Except.map] at h
  · exact .mk (by omega) (readsElements_of_ok h)
termination_by 2 * cs.length + 1
decreasing_by omega

theorem readsElements_of_ok {depth : Nat} {parent : Parent} {cs lit : List Char}
    {acc : List Element} {m : Msg} {rest : List Char}
    (h : (readElements depth parent cs lit acc).map Subtype.val = .ok (m, rest)) :
    ReadsElements depth parent cs lit acc m rest := by
  rcases hcs : cs with _ | ⟨c, r⟩
  · rw [hcs, readElements.eq_1] at h
    simp only [Except.map, Except.ok.injEq, Prod.mk.injEq] at h
    obtain ⟨rfl, rfl⟩ := h
    exact .eoi
  have hlen : cs.length = r.length + 1 := by rw [hcs]; rfl
  rw [hcs] at h
  by_cases h1 : c = '}'
  · subst h1
    rw [readElements.eq_2] at h
    simp only [Except.map, Except.ok.injEq, Prod.mk.injEq] at h
    obtain ⟨rfl, rfl⟩ := h
    exact .close
  by_cases h2 : c = '{'
  · subst h2
    rw [readElements.eq_3] at h
    split at h
    · simp [Except.map] at h
    · rename_i el r' hr' ha
      have hr : r'.length ≤ r.length := hr'
      split at h
      · simp [Except.map] at h
      · rename_i v hv he
        refine .argument (readsArgument_of_ok (by rw [ha]; rfl)) (readsElements_of_ok ?_)
        rw [he]; simpa [Except.map] using h
  by_cases h3 : c = '#'
  · subst h3
    rw [readElements.eq_4] at h
    split at h
    · rename_i hp
      subst hp
      split at h
      · simp [Except.map] at h
      · rename_i v hv he
        refine .pound (readsElements_of_ok ?_)
        rw [he]; simpa [Except.map] using h
    · rename_i hp
      split at h
      · simp [Except.map] at h
      · rename_i v hv he
        refine .hash hp (readsElements_of_ok ?_)
        rw [he]; simpa [Except.map] using h
  by_cases h4 : c = '\''
  · subst h4
    rw [readElements.eq_5] at h
    split at h
    rename_i lit' r' hq
    have hr : r'.length ≤ r.length := by
      have := afterApostrophe_length parent r lit; rw [hq] at this; exact this
    split at h
    · simp [Except.map] at h
    · rename_i v hv he
      refine .quote ?_
      rw [hq]
      refine readsElements_of_ok ?_
      rw [he]; simpa [Except.map] using h
  rw [readElements.eq_6 _ _ _ _ _ _ h1 h2 h3 h4] at h
  split at h
  · simp [Except.map] at h
  · rename_i v hv he
    refine .char h1 h2 h3 h4 (readsElements_of_ok ?_)
    rw [he]; simpa [Except.map] using h
termination_by 2 * cs.length
decreasing_by all_goals omega

theorem readsArgument_of_ok {depth : Nat} {cs : List Char} {el : Element} {rest : List Char}
    (h : (readArgument depth cs).map Subtype.val = .ok (el, rest)) :
    ReadsArgument depth cs el rest := by
  rw [readArgument.eq_1] at h
  split at h
  · simp [Except.map] at h
  rename_i hne
  have hne' : (readName (skipBlanks cs)).1 ≠ [] := by
    intro hc; rw [hc] at hne; exact hne rfl
  split at h
  · rename_i r hr
    simp only [Except.map, Except.ok.injEq, Prod.mk.injEq] at h
    obtain ⟨rfl, rfl⟩ := h
    exact .simple rfl hne' hr
  split at h
  · simp [Except.map] at h
  rename_i cs3 hc3
  dsimp only at h
  split at h
  · rename_i hk
    split at h
    · simp [Except.map] at h
    · rename_i style r hs
      simp only [Except.map, Except.ok.injEq, Prod.mk.injEq] at h
      obtain ⟨rfl, rfl⟩ := h
      exact .formatted rfl hne' hc3 rfl hk hs
  split at h
  · rename_i hk
    split at h
    · simp [Except.map] at h
    rename_i cs6 hc6
    split at h
    · simp [Except.map] at h
    rename_i offset cs7 ho
    have h7 : cs7.length ≤ cs.length := by
      have := readOffset_length ho
      have := skipBlanks_length cs6
      have := expectChar_length hc6
      have := skipBlanks_length (readName (skipBlanks cs3)).2
      have := readName_length (skipBlanks cs3)
      have := skipBlanks_length cs3
      have := expectChar_length hc3
      have := skipBlanks_length (readName (skipBlanks cs)).2
      have := readName_length (skipBlanks cs)
      have := skipBlanks_length cs
      omega
    split at h
    · simp [Except.map] at h
    rename_i arms r hlen ha
    simp only [Except.map, Except.ok.injEq, Prod.mk.injEq] at h
    obtain ⟨rfl, rfl⟩ := h
    exact .plural rfl hne' hc3 rfl hk hc6 ho (readsArms_of_ok (by rw [ha]; rfl))
  split at h
  · rename_i hk
    split at h
    · simp [Except.map] at h
    rename_i cs6 hc6
    have h6 : cs6.length ≤ cs.length := by
      have := expectChar_length hc6
      have := skipBlanks_length (readName (skipBlanks cs3)).2
      have := readName_length (skipBlanks cs3)
      have := skipBlanks_length cs3
      have := expectChar_length hc3
      have := skipBlanks_length (readName (skipBlanks cs)).2
      have := readName_length (skipBlanks cs)
      have := skipBlanks_length cs
      omega
    split at h
    · simp [Except.map] at h
    rename_i arms r hlen ha
    simp only [Except.map, Except.ok.injEq, Prod.mk.injEq] at h
    obtain ⟨rfl, rfl⟩ := h
    exact .select rfl hne' hc3 rfl hk hc6 (readsArms_of_ok (by rw [ha]; rfl))
  split at h <;> simp [Except.map] at h
termination_by 2 * cs.length + 1
decreasing_by all_goals omega

theorem readsArms_of_ok {depth : Nat} {parent : Parent} {cs : List Char} {arms out : List Arm}
    {rest : List Char} (h : (readArms depth parent cs arms).map Subtype.val = .ok (out, rest)) :
    ReadsArms depth parent cs arms out rest := by
  rw [readArms.eq_1] at h
  split at h
  · rename_i r hr
    split at h
    · simp [Except.map] at h
    rename_i out' hf
    simp only [Except.map, Except.ok.injEq, Prod.mk.injEq] at h
    obtain ⟨rfl, rfl⟩ := h
    exact .close hr hf
  · simp [Except.map] at h
  rename_i c more hcm
  dsimp only at h
  split at h
  · simp [Except.map] at h
  rename_i sel hs
  split at h
  · simp [Except.map] at h
  rename_i hnew
  split at h
  · rename_i body hb
    have hbody : body.length < cs.length := by
      have := congrArg List.length hb
      have := skipBlanks_length (readName (skipBlanks cs)).2
      have := readName_length (skipBlanks cs)
      have := skipBlanks_length cs
      simp only [List.length_cons] at *
      omega
    split at h
    · simp [Except.map] at h
    rename_i message r hr hm
    have hr' : r.length ≤ body.length := hr
    split at h
    · simp [Except.map] at h
    rename_i r2 hc
    have hr2 : r2.length < cs.length := by
      have := expectChar_length hc
      omega
    split at h
    · simp [Except.map] at h
    rename_i v hv ha
    refine .arm rfl hs (by simpa using hnew) hb (readsMessage_of_ok (by rw [hm]; rfl)) hc
      (readsArms_of_ok ?_)
    rw [ha]; simpa [Except.map] using h
  · simp [Except.map] at h
termination_by 2 * cs.length
decreasing_by all_goals omega

end


theorem not_formatted_of_choice {s : String} (h : s = "plural" ∨ s = "selectordinal") :
    ¬(s = "number" ∨ s = "date" ∨ s = "time") := by
  rcases h with rfl | rfl <;> decide

theorem readName_closeBrace (r : List Char) : readName ('}' :: r) = ([], '}' :: r) := by
  simp [readName, isNameStop]

theorem isEmpty_ofList_of_ne_nil {cs : List Char} (h : cs ≠ []) :
    (String.ofList cs).isEmpty = false := by
  rw [String.isEmpty_eq_false_iff, Ne, String.ofList_eq_empty_iff]
  exact h

mutual

theorem readMessage_of_reads {depth : Nat} {parent : Parent} {cs : List Char} {m : Msg}
    {rest : List Char} : ReadsMessage depth parent cs m rest →
    (readMessage depth parent cs).map Subtype.val = .ok (m, rest)
  | .mk hd h => by
    rw [readMessage.eq_1, if_neg (by unfold maxDepth at *; omega)]
    exact readElements_of_reads h

theorem readElements_of_reads {depth : Nat} {parent : Parent} {cs lit : List Char}
    {acc : List Element} {m : Msg} {rest : List Char} :
    ReadsElements depth parent cs lit acc m rest →
    (readElements depth parent cs lit acc).map Subtype.val = .ok (m, rest)
  | .eoi => by rw [readElements.eq_1]; rfl
  | .close => by rw [readElements.eq_2]; rfl
  | .argument ha h => by
    obtain ⟨hl, he⟩ := map_val_ok.1 (readArgument_of_reads ha)
    obtain ⟨hl', he'⟩ := map_val_ok.1 (readElements_of_reads h)
    rw [readElements.eq_3, he]
    dsimp only
    rw [he']
    rfl
  | .pound h => by
    obtain ⟨hl', he'⟩ := map_val_ok.1 (readElements_of_reads h)
    rw [readElements.eq_4, if_pos rfl, he']
    rfl
  | .hash hp h => by
    obtain ⟨hl', he'⟩ := map_val_ok.1 (readElements_of_reads h)
    rw [readElements.eq_4, if_neg hp, he']
    rfl
  | .quote h => by
    have hih := readElements_of_reads h
    rw [readElements.eq_5]
    split
    rename_i lit' r hq
    rw [hq] at hih
    obtain ⟨hl', he'⟩ := map_val_ok.1 hih
    dsimp only
    rw [he']
    rfl
  | .char h1 h2 h3 h4 h => by
    obtain ⟨hl', he'⟩ := map_val_ok.1 (readElements_of_reads h)
    rw [readElements.eq_6 _ _ _ _ _ _ h1 h2 h3 h4, he']
    rfl

theorem readArgument_of_reads {depth : Nat} {cs : List Char} {el : Element} {rest : List Char} :
    ReadsArgument depth cs el rest → (readArgument depth cs).map Subtype.val = .ok (el, rest)
  | .simple hn hne hc => by
    have hne' : (String.ofList (readName (skipBlanks cs)).1).isEmpty = false := by
      rw [hn]; exact isEmpty_ofList_of_ne_nil hne
    rw [readArgument.eq_1, if_neg (by rw [hne']; exact Bool.false_ne_true)]
    split
    · rename_i r hr
      rw [hn, hc] at hr
      cases hr
      simp only [hn]
      rfl
    · rename_i hx
      exact absurd (by rw [hn]; exact hc) (hx rest)
  | .formatted hn hne hc hk hkind hs => by
    have hne' : (String.ofList (readName (skipBlanks cs)).1).isEmpty = false := by
      rw [hn]; exact isEmpty_ofList_of_ne_nil hne
    rw [readArgument.eq_1, if_neg (by rw [hne']; exact Bool.false_ne_true)]
    split
    · rename_i r hr
      rw [hn] at hr
      rw [hr] at hc
      cases hc
    split
    · rename_i e he
      rw [hn, hc] at he
      cases he
    rename_i cs3' hc3
    rw [hn, hc] at hc3
    cases hc3
    dsimp only
    simp only [hk]
    rw [if_pos hkind]
    split
    · rename_i e he
      rw [hk, hs] at he
      cases he
    rename_i style' rest' hs'
    rw [hk, hs] at hs'
    cases hs'
    simp only [hn]
    rfl
  | .plural hn hne hc hk hkind hc' ho ha => by
    have hne' : (String.ofList (readName (skipBlanks cs)).1).isEmpty = false := by
      rw [hn]; exact isEmpty_ofList_of_ne_nil hne
    obtain ⟨hl, he⟩ := map_val_ok.1 (readArms_of_reads ha)
    rw [readArgument.eq_1, if_neg (by rw [hne']; exact Bool.false_ne_true)]
    split
    · rename_i r hr
      rw [hn] at hr
      rw [hr] at hc
      cases hc
    split
    · rename_i e he
      rw [hn, hc] at he
      cases he
    rename_i cs3' hc3
    rw [hn, hc] at hc3
    cases hc3
    dsimp only
    simp only [hk]
    rw [if_neg (not_formatted_of_choice hkind), if_pos hkind]
    split
    · rename_i e he
      rw [hk, hc'] at he
      cases he
    rename_i cs6' hc6
    rw [hk, hc'] at hc6
    cases hc6
    split
    · rename_i e he
      rw [ho] at he
      cases he
    rename_i offset' cs7' ho'
    rw [ho] at ho'
    cases ho'
    rw [he]
    simp only [hn]
    rfl
  | .select hn hne hc hk hkind hc' ha => by
    have hne' : (String.ofList (readName (skipBlanks cs)).1).isEmpty = false := by
      rw [hn]; exact isEmpty_ofList_of_ne_nil hne
    obtain ⟨hl, he⟩ := map_val_ok.1 (readArms_of_reads ha)
    rw [readArgument.eq_1, if_neg (by rw [hne']; exact Bool.false_ne_true)]
    split
    · rename_i r hr
      rw [hn] at hr
      rw [hr] at hc
      cases hc
    split
    · rename_i e he
      rw [hn, hc] at he
      cases he
    rename_i cs3' hc3
    rw [hn, hc] at hc3
    cases hc3
    dsimp only
    simp only [hk]
    rw [if_neg (by rw [hkind]; decide), if_neg (by rw [hkind]; decide), if_pos hkind]
    split
    · rename_i e he
      rw [hk, hc'] at he
      cases he
    rename_i cs6' hc6
    rw [hk, hc'] at hc6
    cases hc6
    rw [he]
    simp only [hn]
    rfl

theorem readArms_of_reads {depth : Nat} {parent : Parent} {cs : List Char} {arms out : List Arm}
    {rest : List Char} : ReadsArms depth parent cs arms out rest →
    (readArms depth parent cs arms).map Subtype.val = .ok (out, rest)
  | .close hc hf => by
    rw [readArms.eq_1]
    split
    · rename_i r hr
      rw [hc] at hr
      cases hr
      rw [hf]
      rfl
    · rename_i hr
      rw [hc] at hr
      cases hr
    · rename_i c more hx hr
      rw [hc] at hr
      cases hr
      exact absurd rfl hx
  | .arm ht hs hnew ho hm hc ha => by
    obtain ⟨hl, he⟩ := map_val_ok.1 (readMessage_of_reads hm)
    have hih := readArms_of_reads ha
    rw [readArms.eq_1]
    split
    · rename_i r hr
      rw [hr, readName_closeBrace] at ht
      cases ht
      simp [readSelector] at hs
    · rename_i hr
      rw [hr] at ht
      cases ht
      simp [readSelector] at hs
    rename_i c more hx hcm
    dsimp only
    simp only [ht]
    rw [hs]
    dsimp only
    rw [if_neg (by rw [hnew]; exact Bool.false_ne_true)]
    split
    · rename_i body' hb
      rw [ht] at hb
      rw [ho] at hb
      cases hb
      rw [he]
      dsimp only
      split
      · rename_i e he'
        rw [hc] at he'
        cases he'
      rename_i r2' hc'
      rw [hc] at hc'
      cases hc'
      obtain ⟨hl', he''⟩ := map_val_ok.1 hih
      rw [he'']
      rfl
    · rename_i hx'
      rw [ht] at hx'
      exact absurd ho (hx' _)

end

theorem readMessage_ok_iff {depth : Nat} {parent : Parent} {cs : List Char} {m : Msg}
    {rest : List Char} :
    (readMessage depth parent cs).map Subtype.val = .ok (m, rest) ↔
      ReadsMessage depth parent cs m rest :=
  ⟨readsMessage_of_ok, readMessage_of_reads⟩

/-- a text reads as `m` exactly when the whole of it derives `m` at the top level -/
theorem parse_ok_iff {s : String} {m : Msg} :
    parse s = .ok m ↔ ReadsMessage 0 .root s.toList m [] := by
  rw [← readMessage_ok_iff, parse]
  cases readMessage 0 .root s.toList with
  | error e => simp [Except.map]
  | ok v =>
    obtain ⟨⟨m', rest⟩, hv⟩ := v
    cases rest with
    | nil => simp [Except.map, eq_comm]
    | cons c r => simp [Except.map]

end Phrasebook.Message
