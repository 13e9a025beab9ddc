import Mathlib
import Phrasebook.Locale.Basic

/-!
# Normal forms of locale tags

`Locale.ofTag` trims a tag, takes `_` for `-` and, when the result reads as a language
identifier, replaces it by the identifier's canonical text. Reading that text again gives the
same locale, with two exceptions that come from what the identifier reader accepts:

* a four-character variant that starts with a digit may hold any ASCII character, blanks
  included; sorted last, such a variant ends the canonical text in a blank, which trimming then
  removes (`en-9ab -1abcd` becomes `en-1abcd-9ab `, and that becomes `en-1abcd-9ab`);
* variants are sorted, so with neither script nor region a four-letter variant may come first,
  where the reader takes it for a script (`en-zzzzz-abcd` becomes `en-abcd-zzzzz`, and that
  becomes `en-Abcd-zzzzz`).

`LanguageId.ReadsBack` names the identifiers free of both, and `Locale.Settled` the tags whose
identifier, if they have one, is such.

* `LanguageId.Canonical`          what a parsed identifier satisfies: every subtag has its own
                                  normal shape and no separator, and the variants ascend;
* `LanguageId.canonical_of_parse` parsing gives canonical identifiers;
* `LanguageId.parse_render`       a canonical identifier that reads back parses from its text;
* `Locale.ofTag_ofTag`            normalising a settled tag twice is normalising it once;
* `Locale.ofTag_isEmpty`          a tag that is not blank names a locale with a name.
-/

namespace Phrasebook

/-! ## Trimming -/

namespace Text

theorem dropWhile_blank_eq_self {cs : List Char} (h : ∀ c ∈ cs.head?, isBlank c = false) :
    cs.dropWhile isBlank = cs := by
  cases cs with
  | nil => rfl
  | cons c cs => simp [h c rfl]

theorem trimBlankList_eq_self {cs : List Char} (hhead : ∀ c ∈ cs.head?, isBlank c = false)
    (hlast : ∀ c ∈ cs.getLast?, isBlank c = false) : trimBlankList cs = cs := by
  rw [trimBlankList, dropWhile_blank_eq_self hhead,
    dropWhile_blank_eq_self (by simpa only [List.head?_reverse] using hlast), List.reverse_reverse]

theorem head?_dropWhile_blank (cs : List Char) : ∀ c ∈ (cs.dropWhile isBlank).head?, isBlank c = false := by
  intro c hc
  have h := List.head?_dropWhile_not isBlank cs
  rw [Option.mem_def.1 hc] at h
  exact h

theorem head?_mem_of_isPrefixOf {xs ys : List Char} (h : xs <+: ys) {c : Char} (hc : c ∈ xs.head?) :
    c ∈ ys.head? := by
  obtain ⟨t, rfl⟩ := h
  cases xs with
  | nil => cases hc
  | cons x xs => exact hc

theorem trimBlankList_ends (cs : List Char) :
    (∀ c ∈ (trimBlankList cs).head?, isBlank c = false) ∧
      ∀ c ∈ (trimBlankList cs).getLast?, isBlank c = false := by
  have hprefix : trimBlankList cs <+: cs.dropWhile isBlank := by
    have h := List.reverse_prefix.2 (List.dropWhile_suffix isBlank (l := (cs.dropWhile isBlank).reverse))
    rw [List.reverse_reverse] at h
    exact h
  refine ⟨fun c hc => head?_dropWhile_blank cs c (head?_mem_of_isPrefixOf hprefix hc), ?_⟩
  rw [trimBlankList, List.getLast?_reverse]
  exact head?_dropWhile_blank _

theorem trimBlankList_idem (cs : List Char) : trimBlankList (trimBlankList cs) = trimBlankList cs :=
  trimBlankList_eq_self (trimBlankList_ends cs).1 (trimBlankList_ends cs).2

theorem trimBlanks_idem (s : String) : trimBlanks (trimBlanks s) = trimBlanks s := by
  rw [trimBlanks, trimBlanks, String.toList_ofList, trimBlankList_idem]

theorem trimBlanks_eq_self {s : String} (hhead : ∀ c ∈ s.toList.head?, isBlank c = false)
    (hlast : ∀ c ∈ s.toList.getLast?, isBlank c = false) : trimBlanks s = s := by
  rw [trimBlanks, trimBlankList_eq_self hhead hlast, String.ofList_toList]

theorem trimBlankList_sublist (cs : List Char) : List.Sublist (trimBlankList cs) cs := by
  have hprefix : trimBlankList cs <+: cs.dropWhile isBlank := by
    have h := List.reverse_prefix.2 (List.dropWhile_suffix isBlank (l := (cs.dropWhile isBlank).reverse))
    rw [List.reverse_reverse] at h
    exact h
  exact hprefix.sublist.trans (List.dropWhile_suffix isBlank).sublist

theorem length_trimBlanks_lt {s : String} {c : Char} (hc : c ∈ s.toList.getLast?)
    (hblank : isBlank c = true) : (trimBlanks s).length < s.length := by
  have hsub := trimBlankList_sublist s.toList
  have hne : trimBlankList s.toList ≠ s.toList := by
    intro h
    have := (trimBlankList_ends s.toList).2 c (by rw [h]; exact hc)
    rw [hblank] at this
    cases this
  rw [trimBlanks, String.length_ofList, ← String.length_toList]
  exact lt_of_le_of_ne hsub.length_le fun hlen => hne (hsub.eq_of_length hlen)

theorem isBlankString_iff (s : String) : isBlankString s = true ↔ trimBlanks s = "" := by
  have hA := dropWhile_blank_eq_self (head?_dropWhile_blank s.toList)
  have htrim : trimBlanks s = "" ↔ s.toList.dropWhile isBlank = [] := by
    rw [trimBlanks, ← String.toList_inj, String.toList_ofList, String.toList_empty, trimBlankList,
      List.reverse_eq_nil_iff, List.dropWhile_eq_nil_iff]
    simp only [List.mem_reverse]
    rw [← List.dropWhile_eq_nil_iff, hA]
  rw [htrim, List.dropWhile_eq_nil_iff, isBlankString, List.all_eq_true]

end Text

/-! ## Characters of subtags

Every character a subtag may hold is ASCII, and on ASCII the case maps and the classes are a
finite table; each fact below is checked on the 128 characters. -/

namespace LanguageId

def isSeparator (c : Char) : Bool := c == '-' || c == '_'

theorem ascii_forall {P : Char → Prop} (h : ∀ n < 128, P (Char.ofNat n)) {c : Char}
    (hc : c.toNat < 128) : P c := by
  have := h c.toNat hc
  rwa [Char.ofNat_toNat] at this

theorem toNat_lt_of_isAlphanum {c : Char} (h : c.isAlphanum = true) : c.toNat < 128 := by
  simp only [Char.isAlphanum, Char.isAlpha, Char.isUpper, Char.isLower, Char.isDigit,
    Bool.or_eq_true, Bool.and_eq_true, decide_eq_true_eq, ge_iff_le] at h
  rcases h with (⟨-, h⟩ | ⟨-, h⟩) | ⟨-, h⟩ <;>
    · have := UInt32.le_iff_toNat_le.1 h
      simp at this
      omega

theorem toNat_lt_of_isAlpha {c : Char} (h : c.isAlpha = true) : c.toNat < 128 :=
  toNat_lt_of_isAlphanum (by simp [Char.isAlphanum, h])

theorem toNat_lt_of_isSubtagChar {c : Char} (h : isSubtagChar c = true) : c.toNat < 128 := by
  simp only [isSubtagChar, Bool.and_eq_true, decide_eq_true_eq] at h
  have := UInt32.lt_iff_toNat_lt.1 h.1
  simp at this
  omega

section Ascii

variable {c : Char} (hc : c.toNat < 128)
include hc

theorem toLower_toLower : c.toLower.toLower = c.toLower :=
  ascii_forall (P := fun c => c.toLower.toLower = c.toLower) (by decide) hc

theorem toUpper_toUpper : c.toUpper.toUpper = c.toUpper :=
  ascii_forall (P := fun c => c.toUpper.toUpper = c.toUpper) (by decide) hc

theorem isAlpha_toLower : c.toLower.isAlpha = c.isAlpha :=
  ascii_forall (P := fun c => c.toLower.isAlpha = c.isAlpha) (by decide) hc

theorem isAlpha_toUpper : c.toUpper.isAlpha = c.isAlpha :=
  ascii_forall (P := fun c => c.toUpper.isAlpha = c.isAlpha) (by decide) hc

theorem isAlphanum_toLower : c.toLower.isAlphanum = c.isAlphanum :=
  ascii_forall (P := fun c => c.toLower.isAlphanum = c.isAlphanum) (by decide) hc

theorem isDigit_toLower : c.toLower.isDigit = c.isDigit :=
  ascii_forall (P := fun c => c.toLower.isDigit = c.isDigit) (by decide) hc

theorem isSubtagChar_toLower : isSubtagChar c.toLower = isSubtagChar c :=
  ascii_forall (P := fun c => isSubtagChar c.toLower = isSubtagChar c) (by decide) hc

theorem isSeparator_toLower : isSeparator c.toLower = isSeparator c :=
  ascii_forall (P := fun c => isSeparator c.toLower = isSeparator c) (by decide) hc

end Ascii

theorem isSeparator_of_isAlphanum {c : Char} (h : c.isAlphanum = true) : isSeparator c = false :=
  ascii_forall (P := fun c => c.isAlphanum = true → isSeparator c = false) (by decide)
    (toNat_lt_of_isAlphanum h) h

theorem isBlank_of_isAlphanum {c : Char} (h : c.isAlphanum = true) : Text.isBlank c = false :=
  ascii_forall (P := fun c => c.isAlphanum = true → Text.isBlank c = false) (by decide)
    (toNat_lt_of_isAlphanum h) h

theorem isAlphanum_of_isAlpha {c : Char} (h : c.isAlpha = true) : c.isAlphanum = true := by
  simp [Char.isAlphanum, h]

theorem isAlphanum_of_isDigit {c : Char} (h : c.isDigit = true) : c.isAlphanum = true := by
  simp [Char.isAlphanum, h]

/-! ## Pieces -/

theorem not_mem_splitOnP {α : Type} {p : α → Bool} :
    ∀ {xs ys : List α}, ys ∈ xs.splitOnP p → ∀ c ∈ ys, p c = false
  | [], ys, h, c, hc => by
    rw [List.splitOnP_nil, List.mem_singleton] at h
    subst h
    cases hc
  | x :: xs, ys, h, c, hc => by
    rw [List.splitOnP_cons_eq_if_modifyHead] at h
    split at h
    · rcases List.mem_cons.1 h with rfl | h
      · cases hc
      · exact not_mem_splitOnP h c hc
    · next hx =>
      obtain ⟨hd, tl, heq⟩ := List.exists_cons_of_ne_nil (List.splitOnP_ne_nil p xs)
      rw [heq, List.modifyHead_cons, List.mem_cons] at h
      rcases h with rfl | h
      · rcases List.mem_cons.1 hc with rfl | hc
        · simpa using hx
        · exact not_mem_splitOnP (heq ▸ List.mem_cons_self) c hc
      · exact not_mem_splitOnP (heq ▸ List.mem_cons_of_mem hd h) c hc

theorem splitOnP_intercalate {α : Type} {p : α → Bool} {sep : α} (hsep : p sep = true) :
    ∀ {ls : List (List α)}, ls ≠ [] → (∀ l ∈ ls, ∀ c ∈ l, p c = false) →
      ([sep].intercalate ls).splitOnP p = ls
  | [], hne, _ => absurd rfl hne
  | [l], _, h => by
    rw [List.intercalate_singleton]
    exact List.splitOnP_eq_singleton (h l List.mem_cons_self)
  | l :: l' :: ls, _, h => by
    rw [List.intercalate_cons_cons, List.append_assoc, List.singleton_append,
      List.splitOnP_append_cons_of_forall_mem (h l List.mem_cons_self) sep hsep,
      splitOnP_intercalate hsep (List.cons_ne_nil l' ls) fun m hm => h m (List.mem_cons_of_mem l hm)]

theorem mem_intercalate {α : Type} {sep c : α} :
    ∀ {ls : List (List α)}, c ∈ [sep].intercalate ls → c = sep ∨ ∃ l ∈ ls, c ∈ l
  | [], h => by cases h
  | [l], h => .inr ⟨l, List.mem_cons_self, by simpa using h⟩
  | l :: l' :: ls, h => by
    rw [List.intercalate_cons_cons, List.mem_append, List.mem_append, List.mem_singleton] at h
    rcases h with (h | h) | h
    · exact .inr ⟨l, List.mem_cons_self, h⟩
    · exact .inl h
    · rcases mem_intercalate h with h | ⟨m, hm, hc⟩
      · exact .inl h
      · exact .inr ⟨m, List.mem_cons_of_mem l hm, hc⟩

theorem parse?_eq (s : String) : parse? s =
    match (s.toList.splitOnP isSeparator).map String.ofList with
    | [] => none
    | first :: rest => (languageSubtag? first).bind (readTail · rest) := by
  have h : (s.split fun c => c == '-' || c == '_').toList.map (·.toString) =
      (s.toList.splitOnP isSeparator).map String.ofList :=
    String.toList_split_bool
  unfold parse?
  rw [h]
  generalize (s.toList.splitOnP isSeparator).map String.ofList = pieces
  rcases pieces with _ | ⟨first, rest⟩
  · rfl
  · dsimp only
    cases languageSubtag? first <;> rfl

def Unseparated (s : String) : Prop := ∀ c ∈ s.toList, isSeparator c = false

theorem unseparated_of_mem_pieces {s t : String}
    (h : t ∈ (s.toList.splitOnP isSeparator).map String.ofList) : Unseparated t := by
  obtain ⟨cs, hcs, rfl⟩ := List.mem_map.1 h
  intro c hc
  rw [String.toList_ofList] at hc
  exact not_mem_splitOnP hcs c hc

/-! ## Subtags read as themselves -/

theorem toList_lowerAscii (s : String) : (lowerAscii s).toList = s.toList.map Char.toLower :=
  String.toList_ofList

theorem toList_upperAscii (s : String) : (upperAscii s).toList = s.toList.map Char.toUpper :=
  String.toList_ofList

theorem length_lowerAscii (s : String) : (lowerAscii s).length = s.length := by
  rw [← String.length_toList, toList_lowerAscii, List.length_map, String.length_toList]

theorem lowerAscii_lowerAscii {s : String} (h : ∀ c ∈ s.toList, c.toNat < 128) :
    lowerAscii (lowerAscii s) = lowerAscii s := by
  rw [← String.toList_inj, toList_lowerAscii, toList_lowerAscii, List.map_map]
  exact List.map_congr_left fun c hc => toLower_toLower (h c hc)

theorem all_congr_of_mem {l : List Char} {p q : Char → Bool} (h : ∀ c ∈ l, p c = q c) :
    l.all p = l.all q := by
  rw [Bool.eq_iff_iff, List.all_eq_true, List.all_eq_true]
  exact forall₂_congr fun c hc => by rw [h c hc]

theorem all_map_toLower {s : String} {p : Char → Bool} (h : ∀ c ∈ s.toList, c.toNat < 128)
    (hp : ∀ c : Char, c.toNat < 128 → p c.toLower = p c) :
    (lowerAscii s).toList.all p = s.toList.all p := by
  rw [toList_lowerAscii, List.all_map]
  exact all_congr_of_mem fun c hc => hp c (h c hc)

theorem languageSubtag?_eq_some {s : String} {o : Option String} :
    languageSubtag? s = some o ↔
      (s.length = 2 ∨ s.length = 3 ∨ (5 ≤ s.length ∧ s.length ≤ 8)) ∧ s.toList.all Char.isAlpha ∧
        o = if lowerAscii s = "und" then none else some (lowerAscii s) := by
  unfold languageSubtag?
  by_cases hc : (s.length = 2 ∨ s.length = 3 ∨ (5 ≤ s.length ∧ s.length ≤ 8)) ∧
    s.toList.all Char.isAlpha = true
  · rw [if_pos hc, Option.some.injEq]
    exact ⟨fun ho => ⟨hc.1, hc.2, ho.symm⟩, fun h => h.2.2.symm⟩
  · rw [if_neg hc]
    exact ⟨nofun, fun h => absurd ⟨h.1, h.2.1⟩ hc⟩

theorem languageSubtag?_fix {s : String} {o : Option String} (h : languageSubtag? s = some o) :
    languageSubtag? (o.getD "und") = some o ∧ (o.getD "und").toList.all Char.isAlpha := by
  obtain ⟨hlen, halpha, rfl⟩ := languageSubtag?_eq_some.1 h
  have hascii : ∀ c ∈ s.toList, c.toNat < 128 :=
    fun c hc => toNat_lt_of_isAlpha (List.all_eq_true.1 halpha c hc)
  by_cases hund : lowerAscii s = "und"
  · rw [if_pos hund]
    decide
  · rw [if_neg hund, Option.getD_some]
    have halpha' : (lowerAscii s).toList.all Char.isAlpha = true := by
      rw [all_map_toLower hascii fun c hc => isAlpha_toLower hc]; exact halpha
    refine ⟨languageSubtag?_eq_some.2 ⟨?_, halpha', ?_⟩, halpha'⟩
    · rw [length_lowerAscii]; exact hlen
    · rw [lowerAscii_lowerAscii hascii, if_neg hund]

theorem scriptSubtag?_eq_some {s sc : String} (h : scriptSubtag? s = some sc) :
    ∃ a b c d, s.toList = [a, b, c, d] ∧ [a, b, c, d].all Char.isAlpha = true ∧
      sc = String.ofList [a.toUpper, b.toLower, c.toLower, d.toLower] := by
  unfold scriptSubtag? at h
  split at h
  · next a b c d hs =>
    split at h
    · next halpha => exact ⟨a, b, c, d, hs, halpha, (Option.some.inj h).symm⟩
    · cases h
  · cases h

theorem scriptSubtag?_fix {s sc : String} (h : scriptSubtag? s = some sc) :
    scriptSubtag? sc = some sc ∧ sc.toList.length = 4 ∧ sc.toList.all Char.isAlpha := by
  obtain ⟨a, b, c, d, -, halpha, rfl⟩ := scriptSubtag?_eq_some h
  simp only [List.all_cons, List.all_nil, Bool.and_true, Bool.and_eq_true] at halpha
  obtain ⟨ha, hb, hc, hd⟩ := halpha
  have halpha' : [a.toUpper, b.toLower, c.toLower, d.toLower].all Char.isAlpha = true := by
    simp [isAlpha_toUpper (toNat_lt_of_isAlpha ha), isAlpha_toLower (toNat_lt_of_isAlpha hb),
      isAlpha_toLower (toNat_lt_of_isAlpha hc), isAlpha_toLower (toNat_lt_of_isAlpha hd), ha, hb, hc, hd]
  refine ⟨?_, by simp, by rw [String.toList_ofList]; exact halpha'⟩
  simp only [scriptSubtag?, String.toList_ofList, halpha', if_true,
    toUpper_toUpper (toNat_lt_of_isAlpha ha), toLower_toLower (toNat_lt_of_isAlpha hb),
    toLower_toLower (toNat_lt_of_isAlpha hc), toLower_toLower (toNat_lt_of_isAlpha hd)]

theorem scriptSubtag?_of_length {s : String} (h : s.toList.length ≠ 4) : scriptSubtag? s = none := by
  unfold scriptSubtag?
  split
  · next a b c d hs => rw [hs] at h; exact absurd rfl h
  · rfl

theorem regionSubtag?_of_length {s : String} (h : s.toList.length ≠ 2) (h' : s.toList.length ≠ 3) :
    regionSubtag? s = none := by
  simp [regionSubtag?, h, h']

theorem regionSubtag?_fix {s r : String} (h : regionSubtag? s = some r) :
    regionSubtag? r = some r ∧ scriptSubtag? r = none ∧ r.toList.all Char.isAlphanum := by
  simp only [regionSubtag?] at h
  split at h
  · next h2 =>
    cases h
    have hascii : ∀ c ∈ s.toList, c.toNat < 128 :=
      fun c hc => toNat_lt_of_isAlpha (List.all_eq_true.1 h2.2 c hc)
    have hlen : (upperAscii s).toList.length = 2 := by rw [toList_upperAscii, List.length_map, h2.1]
    have halpha : (upperAscii s).toList.all Char.isAlpha = true := by
      rw [toList_upperAscii, List.all_map]
      rw [all_congr_of_mem (p := Char.isAlpha ∘ Char.toUpper) fun c hc => isAlpha_toUpper (hascii c hc)]
      exact h2.2
    have hfix : upperAscii (upperAscii s) = upperAscii s := by
      rw [← String.toList_inj, toList_upperAscii, toList_upperAscii, List.map_map]
      exact List.map_congr_left fun c hc => toUpper_toUpper (hascii c hc)
    refine ⟨?_, scriptSubtag?_of_length (by omega), ?_⟩
    · simp [regionSubtag?, hlen, halpha, hfix]
    · exact List.all_eq_true.2 fun c hc => isAlphanum_of_isAlpha (List.all_eq_true.1 halpha c hc)
  · next h2 =>
    split at h
    · next h3 =>
      cases h
      refine ⟨?_, scriptSubtag?_of_length (by omega), ?_⟩
      · simp only [regionSubtag?, if_neg h2, if_pos h3]
      · exact List.all_eq_true.2 fun c hc => isAlphanum_of_isDigit (List.all_eq_true.1 h3.2 c hc)
    · cases h

theorem variantSubtag?_eq_some {s v : String} (h : variantSubtag? s = some v) :
    s.toList.all isSubtagChar = true ∧
      (((5 ≤ s.toList.length ∧ s.toList.length ≤ 8) ∧ s.toList.all Char.isAlphanum = true) ∨
        (s.toList.length = 4 ∧ isShortVariant s.toList = true)) ∧ v = lowerAscii s := by
  simp only [variantSubtag?] at h
  split at h
  · next hs => exact ⟨hs.1, hs.2, (Option.some.inj h).symm⟩
  · cases h

theorem isShortVariant_map_toLower {cs : List Char} (h : ∀ c ∈ cs, c.toNat < 128) :
    isShortVariant (cs.map Char.toLower) = isShortVariant cs := by
  cases cs with
  | nil => rfl
  | cons c rest =>
    simp only [List.map_cons, isShortVariant, List.all_map]
    rw [isDigit_toLower (h c List.mem_cons_self),
      all_congr_of_mem (p := Char.isAlphanum ∘ Char.toLower)
        fun d hd => isAlphanum_toLower (h d (List.mem_cons_of_mem c hd))]

theorem variantSubtag?_fix {s v : String} (h : variantSubtag? s = some v) (hs : Unseparated s) :
    variantSubtag? v = some v ∧ regionSubtag? v = none ∧ Unseparated v := by
  obtain ⟨hsub, hshape, rfl⟩ := variantSubtag?_eq_some h
  have hascii : ∀ c ∈ s.toList, c.toNat < 128 :=
    fun c hc => toNat_lt_of_isSubtagChar (List.all_eq_true.1 hsub c hc)
  have hlen : (lowerAscii s).toList.length = s.toList.length := by
    rw [toList_lowerAscii, List.length_map]
  refine ⟨?_, regionSubtag?_of_length (by omega) (by omega), ?_⟩
  · have hsub' := all_map_toLower hascii fun c hc => isSubtagChar_toLower hc
    have halnum := all_map_toLower hascii fun c hc => isAlphanum_toLower (c := c) hc
    have hshort : isShortVariant (lowerAscii s).toList = isShortVariant s.toList := by
      rw [toList_lowerAscii, isShortVariant_map_toLower hascii]
    simp only [variantSubtag?, hsub', halnum, hshort, hlen, lowerAscii_lowerAscii hascii]
    rw [if_pos ⟨hsub, hshape⟩]
  · intro c hc
    rw [toList_lowerAscii, List.mem_map] at hc
    obtain ⟨d, hd, rfl⟩ := hc
    rw [isSeparator_toLower (hascii d hd)]
    exact hs d hd

/-! ## Variants -/

theorem mem_insertSorted {v x : String} :
    ∀ {acc : List String}, x ∈ insertSorted v acc → x = v ∨ x ∈ acc
  | [], h => .inl (List.mem_singleton.1 h)
  | w :: ws, h => by
    unfold insertSorted at h
    split at h
    · exact List.mem_cons.1 h
    · split at h
      · exact .inr h
      · rcases List.mem_cons.1 h with rfl | h
        · exact .inr List.mem_cons_self
        · rcases mem_insertSorted h with rfl | h
          · exact .inl rfl
          · exact .inr (List.mem_cons_of_mem w h)

theorem pairwise_insertSorted (v : String) :
    ∀ {acc : List String}, acc.Pairwise (· < ·) → (insertSorted v acc).Pairwise (· < ·)
  | [], _ => List.pairwise_singleton _ v
  | w :: ws, h => by
    rw [List.pairwise_cons] at h
    unfold insertSorted
    split
    · next hvw =>
      refine List.Pairwise.cons (fun x hx => ?_) (List.Pairwise.cons h.1 h.2)
      rcases List.mem_cons.1 hx with rfl | hx
      · exact hvw
      · exact lt_trans hvw (h.1 x hx)
    · split
      · exact List.Pairwise.cons h.1 h.2
      · next hvw hne =>
        have hwv : w < v := (lt_or_gt_of_ne (Ne.symm hne)).resolve_right hvw
        refine List.Pairwise.cons (fun x hx => ?_) (pairwise_insertSorted v h.2)
        rcases mem_insertSorted hx with rfl | hx
        · exact hwv
        · exact h.1 x hx

theorem insertSorted_of_lt {v : String} :
    ∀ {acc : List String}, (∀ a ∈ acc, a < v) → insertSorted v acc = acc ++ [v]
  | [], _ => rfl
  | w :: ws, h => by
    have hwv := h w List.mem_cons_self
    rw [insertSorted, if_neg (lt_asymm hwv), if_neg (ne_of_gt hwv),
      insertSorted_of_lt fun a ha => h a (List.mem_cons_of_mem w ha), List.cons_append]

def VariantNormal (v : String) : Prop :=
  variantSubtag? v = some v ∧ regionSubtag? v = none ∧ Unseparated v

theorem readVariants_normal :
    ∀ {pieces acc vs : List String}, readVariants pieces acc = some vs →
      (∀ p ∈ pieces, Unseparated p) → acc.Pairwise (· < ·) → (∀ a ∈ acc, VariantNormal a) →
      vs.Pairwise (· < ·) ∧ ∀ v ∈ vs, VariantNormal v
  | [], acc, vs, h, _, hacc, hnorm => by
    cases h
    exact ⟨hacc, hnorm⟩
  | p :: rest, acc, vs, h, hp, hacc, hnorm => by
    unfold readVariants at h
    split at h
    · next v hv =>
      refine readVariants_normal h (fun q hq => hp q (List.mem_cons_of_mem p hq))
        (pairwise_insertSorted v hacc) fun a ha => ?_
      rcases mem_insertSorted ha with rfl | ha
      · exact variantSubtag?_fix hv (hp p List.mem_cons_self)
      · exact hnorm a ha
    · cases h

theorem readVariants_ascending :
    ∀ {vs acc : List String}, vs.Pairwise (· < ·) → (∀ v ∈ vs, variantSubtag? v = some v) →
      (∀ a ∈ acc, ∀ v ∈ vs, a < v) → readVariants vs acc = some (acc ++ vs)
  | [], acc, _, _, _ => by rw [List.append_nil]; rfl
  | v :: vs, acc, hasc, hfix, hlt => by
    rw [List.pairwise_cons] at hasc
    rw [readVariants, hfix v List.mem_cons_self]
    dsimp only
    rw [insertSorted_of_lt fun a ha => hlt a ha v List.mem_cons_self,
      readVariants_ascending hasc.2 (fun w hw => hfix w (List.mem_cons_of_mem v hw)) ?_,
      List.append_assoc, List.singleton_append]
    intro a ha w hw
    rcases List.mem_append.1 ha with ha | ha
    · exact hlt a ha w (List.mem_cons_of_mem v hw)
    · rw [List.mem_singleton.1 ha]
      exact hasc.1 w hw

theorem languageSubtag?_length {s : String} {o : Option String} (h : languageSubtag? s = some o) :
    2 ≤ s.length := by
  have := (languageSubtag?_eq_some.1 h).1
  omega

/-! ## Canonical identifiers -/

/-- what every parsed identifier satisfies: each subtag reads back as itself in its own slot, a
region is never a script and a variant never a region, variants hold no separator, and they are
strictly ascending -/
structure Canonical (id : LanguageId) : Prop where
  language : languageSubtag? (id.language.getD "und") = some id.language
  script : ∀ sc ∈ id.script, scriptSubtag? sc = some sc
  region : ∀ r ∈ id.region, regionSubtag? r = some r ∧ scriptSubtag? r = none
  variants : ∀ v ∈ id.variants, VariantNormal v
  ascending : id.variants.Pairwise (· < ·)

/-- the script and region the reader takes from the subtags before the variants -/
inductive Heads : List String → Option String → Option String → Prop
  | bare : Heads [] none none
  | script {s sc : String} : scriptSubtag? s = some sc → Heads [s] (some sc) none
  | region {r rg : String} : regionSubtag? r = some rg → Heads [r] none (some rg)
  | both {s r sc rg : String} : scriptSubtag? s = some sc → regionSubtag? r = some rg →
      Heads [s, r] (some sc) (some rg)

theorem readTail_inv {lang : Option String} {pieces : List String} {id : LanguageId}
    (h : readTail lang pieces = some id) :
    id.language = lang ∧ ∃ used rest, pieces = used ++ rest ∧ Heads used id.script id.region ∧
      readVariants rest [] = some id.variants := by
  unfold readTail at h
  split at h
  · cases h
    exact ⟨rfl, [], [], rfl, .bare, rfl⟩
  · next s rest =>
    split at h
    · next sc hsc =>
      split at h
      · cases h
        exact ⟨rfl, [s], [], rfl, .script hsc, rfl⟩
      · next r rest' =>
        split at h
        · next rg hrg =>
          obtain ⟨vs, hvs, rfl⟩ := Option.map_eq_some_iff.1 h
          exact ⟨rfl, [s, r], rest', rfl, .both hsc hrg, hvs⟩
        · obtain ⟨vs, hvs, rfl⟩ := Option.map_eq_some_iff.1 h
          exact ⟨rfl, [s], r :: rest', rfl, .script hsc, hvs⟩
    · split at h
      · next rg hrg =>
        obtain ⟨vs, hvs, rfl⟩ := Option.map_eq_some_iff.1 h
        exact ⟨rfl, [s], rest, rfl, .region hrg, hvs⟩
      · obtain ⟨vs, hvs, rfl⟩ := Option.map_eq_some_iff.1 h
        exact ⟨rfl, [], s :: rest, rfl, .bare, hvs⟩

theorem Heads.script_fix {used : List String} {sc rg : Option String} (h : Heads used sc rg) :
    ∀ x ∈ sc, scriptSubtag? x = some x := by
  cases h with
  | bare => simp
  | script hs => simpa using (scriptSubtag?_fix hs).1
  | region => simp
  | both hs => simpa using (scriptSubtag?_fix hs).1

theorem Heads.region_fix {used : List String} {sc rg : Option String} (h : Heads used sc rg) :
    ∀ x ∈ rg, regionSubtag? x = some x ∧ scriptSubtag? x = none := by
  cases h with
  | bare => simp
  | script => simp
  | region hr => simpa using ⟨(regionSubtag?_fix hr).1, (regionSubtag?_fix hr).2.1⟩
  | both _ hr => simpa using ⟨(regionSubtag?_fix hr).1, (regionSubtag?_fix hr).2.1⟩

theorem canonical_of_readTail {lang : Option String} {pieces : List String} {id : LanguageId}
    (hlang : languageSubtag? (lang.getD "und") = some lang) (h : readTail lang pieces = some id)
    (hp : ∀ p ∈ pieces, Unseparated p) : Canonical id := by
  obtain ⟨hl, used, rest, rfl, hheads, hvs⟩ := readTail_inv h
  obtain ⟨hasc, hnorm⟩ := readVariants_normal hvs
    (fun p hp' => hp p (List.mem_append_right used hp')) List.Pairwise.nil (by simp)
  exact ⟨hl ▸ hlang, hheads.script_fix, hheads.region_fix, hnorm, hasc⟩

/-- parsing gives canonical identifiers -/
theorem canonical_of_parse {s : String} {id : LanguageId} (h : parse? s = some id) : Canonical id := by
  rw [parse?_eq] at h
  split at h
  · cases h
  · next first rest hpieces =>
    obtain ⟨lang, hlang, htail⟩ := Option.bind_eq_some_iff.1 h
    exact canonical_of_readTail (languageSubtag?_fix hlang).1 htail fun p hp =>
      unseparated_of_mem_pieces (hpieces ▸ List.mem_cons_of_mem first hp)

/-! ## Reading the canonical text -/

def subtags (id : LanguageId) : List String :=
  (id.language.getD "und") :: (id.script.toList ++ id.region.toList ++ id.variants)

theorem render_eq_intercalate (id : LanguageId) : id.render = "-".intercalate id.subtags := rfl

theorem unseparated_of_alphanum {s : String} (h : s.toList.all Char.isAlphanum = true) :
    Unseparated s :=
  fun c hc => isSeparator_of_isAlphanum (List.all_eq_true.1 h c hc)

theorem unseparated_subtags {id : LanguageId} (hc : Canonical id) : ∀ t ∈ id.subtags, Unseparated t := by
  intro t ht
  simp only [subtags, List.mem_cons, List.mem_append, Option.mem_toList] at ht
  rcases ht with rfl | ((ht | ht) | ht)
  · refine unseparated_of_alphanum (List.all_eq_true.2 fun c hc' => isAlphanum_of_isAlpha ?_)
    exact List.all_eq_true.1 (languageSubtag?_fix hc.language).2 c hc'
  · refine unseparated_of_alphanum (List.all_eq_true.2 fun c hc' => isAlphanum_of_isAlpha ?_)
    exact List.all_eq_true.1 (scriptSubtag?_fix (hc.script t ht)).2.2 c hc'
  · exact unseparated_of_alphanum (regionSubtag?_fix (hc.region t ht).1).2.2
  · exact (hc.variants t ht).2.2

theorem pieces_render {id : LanguageId} (hc : Canonical id) :
    (id.render.toList.splitOnP isSeparator).map String.ofList = id.subtags := by
  rw [render_eq_intercalate, String.toList_intercalate, show "-".toList = ['-'] from rfl,
    splitOnP_intercalate (show isSeparator '-' = true from rfl) (by simp [subtags])]
  · rw [List.map_map]
    exact List.map_id'' (fun t => String.ofList_toList) _
  · intro l hl c hc'
    obtain ⟨t, ht, rfl⟩ := List.mem_map.1 hl
    exact unseparated_subtags hc t ht c hc'

theorem readTail_subtags {id : LanguageId} (hc : Canonical id)
    (hfirst : id.script = none → id.region = none → ∀ v ∈ id.variants.head?, scriptSubtag? v = none) :
    readTail id.language (id.script.toList ++ id.region.toList ++ id.variants) = some id := by
  obtain ⟨lang, sc, rg, vs⟩ := id
  have hvs : readVariants vs [] = some vs :=
    readVariants_ascending hc.ascending (fun v hv => (hc.variants v hv).1) (by simp)
  cases sc with
  | some sc =>
    have hsc := hc.script sc rfl
    cases rg with
    | some rg => simp [readTail, hsc, (hc.region rg rfl).1, hvs]
    | none =>
      cases vs with
      | nil => simp [readTail, hsc]
      | cons v vs' => simp [readTail, hsc, (hc.variants v List.mem_cons_self).2.1, hvs]
  | none =>
    cases rg with
    | some rg => simp [readTail, (hc.region rg rfl).2, (hc.region rg rfl).1, hvs]
    | none =>
      cases vs with
      | nil => rfl
      | cons v vs' =>
        simp [readTail, hfirst rfl rfl v rfl, (hc.variants v List.mem_cons_self).2.1, hvs]

/-- a canonical identifier whose first variant, with neither script nor region, does not look
like a script parses from its own text -/
theorem parse_render {id : LanguageId} (hc : Canonical id)
    (hfirst : id.script = none → id.region = none → ∀ v ∈ id.variants.head?, scriptSubtag? v = none) :
    parse? id.render = some id := by
  rw [parse?_eq, pieces_render hc]
  show (languageSubtag? (id.language.getD "und")).bind
    (readTail · (id.script.toList ++ id.region.toList ++ id.variants)) = some id
  rw [hc.language, Option.bind_some]
  exact readTail_subtags hc hfirst

/-- identifiers whose canonical text reads back as the same locale: it does not end in a blank,
and with neither script nor region the first variant does not look like a script -/
structure ReadsBack (id : LanguageId) : Prop where
  endsUnblank : ∀ c ∈ id.render.toList.getLast?, Text.isBlank c = false
  firstVariant : id.script = none → id.region = none → ∀ v ∈ id.variants.head?, scriptSubtag? v = none

theorem head?_render {id : LanguageId} (hc : Canonical id) :
    ∃ c, id.render.toList.head? = some c ∧ c.isAlpha = true := by
  have hlang := languageSubtag?_fix hc.language
  have hlen := languageSubtag?_length hc.language
  obtain ⟨c, cs, hcs⟩ : ∃ c cs, (id.language.getD "und").toList = c :: cs := by
    rcases h : (id.language.getD "und").toList with _ | ⟨c, cs⟩
    · rw [← String.length_toList, h] at hlen; cases hlen
    · exact ⟨c, cs, rfl⟩
  refine ⟨c, ?_, List.all_eq_true.1 hlang.2 c (hcs ▸ List.mem_cons_self)⟩
  rw [render_eq_intercalate, String.toList_intercalate, subtags, List.map_cons, hcs]
  cases (id.script.toList ++ id.region.toList ++ id.variants).map String.toList <;> rfl

theorem hyphenate_render {id : LanguageId} (hc : Canonical id) : Locale.hyphenate id.render = id.render := by
  have hchars : ∀ c ∈ id.render.toList, c ≠ '_' := by
    intro c hc'
    rw [render_eq_intercalate, String.toList_intercalate, show "-".toList = ['-'] from rfl] at hc'
    rcases mem_intercalate hc' with rfl | ⟨l, hl, hcl⟩
    · decide
    · obtain ⟨t, ht, rfl⟩ := List.mem_map.1 hl
      rintro rfl
      cases unseparated_subtags hc t ht '_' hcl
  rw [Locale.hyphenate, List.map_congr_left (g := fun c => c) fun c hc' => if_neg (hchars c hc'),
    List.map_id', String.ofList_toList]

/-! ## Texts that do not read back

A parsed identifier's text is never longer than the text it was read from, and a script is never
a variant's own text: so an identifier that does not read back names, from its text, another
locale. -/

def textWeight : List String → Nat
  | [] => 0
  | t :: ts => t.length + 1 + textWeight ts

theorem textWeight_append (xs ys : List String) :
    textWeight (xs ++ ys) = textWeight xs + textWeight ys := by
  induction xs with
  | nil => simp [textWeight]
  | cons x xs ih => simp only [List.cons_append, textWeight, ih]; omega

theorem textWeight_insertSorted (v : String) :
    ∀ acc : List String, textWeight (insertSorted v acc) ≤ v.length + 1 + textWeight acc
  | [] => le_refl _
  | w :: ws => by
    have ih := textWeight_insertSorted v ws
    unfold insertSorted
    split
    · exact le_refl _
    · split
      · simp only [textWeight]; omega
      · simp only [textWeight]; omega

theorem length_of_variantSubtag? {s v : String} (h : variantSubtag? s = some v) :
    v.length = s.length := by
  obtain ⟨-, -, rfl⟩ := variantSubtag?_eq_some h
  exact length_lowerAscii s

theorem length_of_scriptSubtag? {s sc : String} (h : scriptSubtag? s = some sc) :
    sc.length = s.length := by
  obtain ⟨a, b, c, d, hs, -, rfl⟩ := scriptSubtag?_eq_some h
  rw [← String.length_toList, ← String.length_toList, hs, String.toList_ofList]
  rfl

theorem length_of_regionSubtag? {s r : String} (h : regionSubtag? s = some r) :
    r.length = s.length := by
  simp only [regionSubtag?] at h
  split at h
  · cases h
    rw [← String.length_toList, ← String.length_toList, toList_upperAscii, List.length_map]
  · split at h
    · cases h
      rfl
    · cases h

theorem textWeight_readVariants :
    ∀ {pieces acc vs : List String}, readVariants pieces acc = some vs →
      textWeight vs ≤ textWeight acc + textWeight pieces
  | [], acc, vs, h => by
    cases h
    simp [textWeight]
  | p :: rest, acc, vs, h => by
    unfold readVariants at h
    split at h
    · next v hv =>
      have h1 := textWeight_readVariants h
      have h2 := textWeight_insertSorted v acc
      have h3 := length_of_variantSubtag? hv
      simp only [textWeight]
      omega
    · cases h

theorem Heads.textWeight_le {used : List String} {sc rg : Option String} (h : Heads used sc rg) :
    textWeight (sc.toList ++ rg.toList) ≤ textWeight used := by
  cases h with
  | bare => exact le_refl _
  | script hs => simp [textWeight, length_of_scriptSubtag? hs]
  | region hr => simp [textWeight, length_of_regionSubtag? hr]
  | both hs hr => simp [textWeight, length_of_scriptSubtag? hs, length_of_regionSubtag? hr]

theorem textWeight_pieces (xs : List Char) :
    textWeight ((xs.splitOnP isSeparator).map String.ofList) = xs.length + 1 := by
  induction xs with
  | nil => rfl
  | cons x xs ih =>
    rw [List.splitOnP_cons_eq_if_modifyHead]
    split
    · simp only [List.map_cons, textWeight, ih, List.length_cons, String.length_ofList,
        List.length_nil]
      omega
    · obtain ⟨hd, tl, heq⟩ := List.exists_cons_of_ne_nil (List.splitOnP_ne_nil isSeparator xs)
      rw [heq] at ih ⊢
      simp only [List.modifyHead_cons, List.map_cons, textWeight, String.length_ofList,
        List.length_cons] at ih ⊢
      omega

theorem length_intercalate_add_one :
    ∀ {ts : List String}, ts ≠ [] → ("-".intercalate ts).length + 1 = textWeight ts
  | [], h => absurd rfl h
  | [t], _ => by simp [textWeight, String.intercalate_singleton]
  | t :: t' :: ts, _ => by
    have ih := length_intercalate_add_one (List.cons_ne_nil t' ts)
    rw [String.intercalate_cons_cons, String.length_append, String.length_append]
    simp only [textWeight] at ih ⊢
    have hsep : "-".length = 1 := rfl
    omega

theorem length_render_le {s : String} {id : LanguageId} (h : parse? s = some id) :
    id.render.length ≤ s.length := by
  rw [parse?_eq] at h
  split at h
  · cases h
  · next first rest hpieces =>
    obtain ⟨lang, hlang, htail⟩ := Option.bind_eq_some_iff.1 h
    obtain ⟨hl, used, rest', rfl, hheads, hvs⟩ := readTail_inv htail
    have hpieces' := textWeight_pieces s.toList
    rw [hpieces, textWeight, textWeight_append, String.length_toList] at hpieces'
    have hrender : ("-".intercalate id.subtags).length + 1 = textWeight id.subtags :=
      length_intercalate_add_one (List.cons_ne_nil _ _)
    rw [← render_eq_intercalate, subtags, textWeight, textWeight_append] at hrender
    have hlen : (id.language.getD "und").length = first.length := by
      obtain ⟨-, -, ho⟩ := languageSubtag?_eq_some.1 hlang
      rw [hl, ho]
      split
      · next hund => rw [Option.getD_none, ← hund, length_lowerAscii]
      · rw [Option.getD_some, length_lowerAscii]
    have hv := textWeight_readVariants hvs
    have hh := hheads.textWeight_le
    simp only [textWeight] at hv
    omega

theorem parse_render_of_scriptLike {id : LanguageId} (hc : Canonical id) (hs : id.script = none)
    (hr : id.region = none) {v sc : String} {vs : List String} (hvs : id.variants = v :: vs)
    (hsc : scriptSubtag? v = some sc) : parse? id.render = some ⟨id.language, some sc, none, vs⟩ := by
  have hasc := hc.ascending
  rw [hvs, List.pairwise_cons] at hasc
  have hrest : readVariants vs [] = some vs :=
    readVariants_ascending hasc.2 (fun w hw => (hc.variants w (hvs ▸ List.mem_cons_of_mem v hw)).1)
      (by simp)
  rw [parse?_eq, pieces_render hc]
  show (languageSubtag? (id.language.getD "und")).bind
    (readTail · (id.script.toList ++ id.region.toList ++ id.variants)) = _
  rw [hc.language, Option.bind_some, hs, hr, hvs]
  cases vs with
  | nil => simp [readTail, hsc]
  | cons w ws =>
    have hw := (hc.variants w (by simp [hvs])).2.1
    simp [readTail, hsc, hw, hrest]

theorem script_ne_variant {v sc : String} (hv : VariantNormal v) (hsc : scriptSubtag? v = some sc) :
    sc ≠ v := by
  obtain ⟨a, b, c, d, hvl, halpha, rfl⟩ := scriptSubtag?_eq_some hsc
  obtain ⟨-, -, hlow⟩ := variantSubtag?_eq_some hv.1
  have ha : a.isAlpha = true := by
    simp only [List.all_cons, Bool.and_eq_true] at halpha
    exact halpha.1
  have hla : a.toLower = a := by
    have := congrArg String.toList hlow
    rw [toList_lowerAscii, hvl] at this
    simp only [List.map_cons, List.cons.injEq] at this
    exact this.1.symm
  intro heq
  have hua : a.toUpper = a := by
    have := congrArg String.toList heq
    rw [String.toList_ofList, hvl] at this
    simp only [List.cons.injEq] at this
    exact this.1
  exact ascii_forall (P := fun a => a.isAlpha = true → a.toLower = a → a.toUpper ≠ a) (by decide)
    (toNat_lt_of_isAlpha ha) ha hla hua

theorem subtags_eq_of_render {id id' : LanguageId} (hc : Canonical id) (hc' : Canonical id')
    (h : id.render = id'.render) : id.subtags = id'.subtags := by
  rw [← pieces_render hc, ← pieces_render hc', h]

theorem length_hyphenate (s : String) : (Locale.hyphenate s).length = s.length := by
  rw [Locale.hyphenate, String.length_ofList, List.length_map, String.length_toList]

end LanguageId

namespace Locale

theorem ofTag_render {id : LanguageId} (hc : id.Canonical) (hr : id.ReadsBack) :
    ofTag id.render = ⟨id.render⟩ := by
  obtain ⟨c, hhead, halpha⟩ := LanguageId.head?_render hc
  have htrim : Text.trimBlanks id.render = id.render :=
    Text.trimBlanks_eq_self (fun d hd => by
      rw [hhead, Option.mem_some_iff] at hd
      exact hd ▸ LanguageId.isBlank_of_isAlphanum (LanguageId.isAlphanum_of_isAlpha halpha))
      hr.endsUnblank
  simp only [ofTag, htrim, LanguageId.hyphenate_render hc, LanguageId.parse_render hc hr.firstVariant]

/-- tags whose language identifier, if they read as one, reads back -/
def Settled (t : String) : Prop :=
  ∀ id, LanguageId.parse? (hyphenate (Text.trimBlanks t)) = some id → id.ReadsBack

theorem ofTag_of_parse {raw : String} {id : LanguageId}
    (h : LanguageId.parse? (hyphenate (Text.trimBlanks raw)) = some id) : ofTag raw = ⟨id.render⟩ := by
  simp [ofTag, h]

theorem ofTag_of_parse_none {raw : String}
    (h : LanguageId.parse? (hyphenate (Text.trimBlanks raw)) = none) : ofTag raw = ⟨Text.trimBlanks raw⟩ := by
  simp [ofTag, h]

/-- normalising a settled tag twice is normalising it once -/
theorem ofTag_ofTag {t : String} (ht : Settled t) : ofTag (ofTag t).tag = ofTag t := by
  cases hp : LanguageId.parse? (hyphenate (Text.trimBlanks t)) with
  | none =>
    rw [ofTag_of_parse_none hp]
    exact ofTag_of_parse_none (by rw [Text.trimBlanks_idem]; exact hp) |>.trans
      (by rw [Text.trimBlanks_idem])
  | some id =>
    rw [ofTag_of_parse hp]
    exact ofTag_render (LanguageId.canonical_of_parse hp) (ht id hp)

theorem ofTag_render_ne_of_scriptLike {id : LanguageId} (hc : id.Canonical)
    (hlast : ∀ c ∈ id.render.toList.getLast?, Text.isBlank c = false) (hs : id.script = none)
    (hrg : id.region = none) {v : String} (hv : id.variants.head? = some v)
    (hsc : LanguageId.scriptSubtag? v ≠ none) : ofTag id.render ≠ ⟨id.render⟩ := by
  intro heq
  obtain ⟨sc, hsc⟩ := Option.ne_none_iff_exists'.1 hsc
  obtain ⟨vs, hvs⟩ : ∃ vs, id.variants = v :: vs := by
    cases h : id.variants with
    | nil => rw [h] at hv; cases hv
    | cons w ws => rw [h] at hv; cases hv; exact ⟨ws, rfl⟩
  obtain ⟨c, hhead, halpha⟩ := LanguageId.head?_render hc
  have htrim : Text.trimBlanks id.render = id.render :=
    Text.trimBlanks_eq_self (fun d hd => by
      rw [hhead, Option.mem_some_iff] at hd
      exact hd ▸ LanguageId.isBlank_of_isAlphanum (LanguageId.isAlphanum_of_isAlpha halpha))
      hlast
  have hparse := LanguageId.parse_render_of_scriptLike hc hs hrg hvs hsc
  simp only [ofTag, htrim, LanguageId.hyphenate_render hc, hparse, Locale.mk.injEq] at heq
  have hsub := LanguageId.subtags_eq_of_render (LanguageId.canonical_of_parse hparse) hc heq
  simp only [LanguageId.subtags, hs, hrg, hvs, Option.toList_none, Option.toList_some,
    List.nil_append, List.singleton_append, List.cons.injEq] at hsub
  exact LanguageId.script_ne_variant (hc.variants v (by simp [hvs])) hsc hsub.2.1

theorem ofTag_ne_of_blank_end {t : String} {c : Char} (hc : c ∈ t.toList.getLast?)
    (hblank : Text.isBlank c = true) : ofTag t ≠ ⟨t⟩ := by
  intro heq
  have hlt := Text.length_trimBlanks_lt hc hblank
  cases hp : LanguageId.parse? (hyphenate (Text.trimBlanks t)) with
  | none =>
    rw [ofTag_of_parse_none hp, Locale.mk.injEq] at heq
    rw [heq] at hlt
    exact lt_irrefl _ hlt
  | some id' =>
    rw [ofTag_of_parse hp, Locale.mk.injEq] at heq
    have hle := LanguageId.length_render_le hp
    rw [LanguageId.length_hyphenate, heq] at hle
    exact absurd hlt (not_lt.2 hle)

theorem ofTag_render_ne {id : LanguageId} (hc : id.Canonical) (hr : ¬ id.ReadsBack) :
    ofTag id.render ≠ ⟨id.render⟩ := by
  by_cases hlast : ∀ c ∈ id.render.toList.getLast?, Text.isBlank c = false
  · have hfirst : ¬ (id.script = none → id.region = none →
        ∀ v ∈ id.variants.head?, LanguageId.scriptSubtag? v = none) := fun h => hr ⟨hlast, h⟩
    simp only [not_forall, Option.mem_def] at hfirst
    obtain ⟨hs, hrg, v, hv, hsc⟩ := hfirst
    exact ofTag_render_ne_of_scriptLike hc hlast hs hrg hv hsc
  · simp only [not_forall, Bool.not_eq_false] at hlast
    obtain ⟨c, hc', hblank⟩ := hlast
    exact ofTag_ne_of_blank_end hc' hblank

theorem ofTag_ofTag_iff (t : String) : ofTag (ofTag t).tag = ofTag t ↔ Settled t := by
  refine ⟨fun h id hp => ?_, ofTag_ofTag⟩
  by_contra hr
  rw [ofTag_of_parse hp] at h
  exact ofTag_render_ne (LanguageId.canonical_of_parse hp) hr h

/-- a tag that is not blank names a locale with a name -/
theorem ofTag_isEmpty {raw : String} (h : Text.trimBlanks raw ≠ "") : (ofTag raw).isEmpty = false := by
  rw [Bool.eq_false_iff]
  intro hempty
  have htag : (ofTag raw).tag = "" := String.isEmpty_iff.1 hempty
  cases hp : LanguageId.parse? (hyphenate (Text.trimBlanks raw)) with
  | none => rw [ofTag_of_parse_none hp] at htag; exact h htag
  | some id =>
    rw [ofTag_of_parse hp] at htag
    obtain ⟨c, hhead, -⟩ := LanguageId.head?_render (LanguageId.canonical_of_parse hp)
    change id.render = "" at htag
    rw [htag] at hhead
    cases hhead

end Locale

end Phrasebook
