import Phrasebook.Format.Number
import Phrasebook.Proofs.Decimal.Magnitude

/-!
# Numbers as numerals of a locale

A finite number whose written value (a hundred times it, for a percentage) is finite is written as
a numeral of the locale:

* `groupFromRight sep ds`   digits with `sep` before every third digit counted from the right,
  never in front; `groupDigits_eq` shows that `groupDigits` groups so;
* `FixedDigits places s whole fraction`   `s` is the whole digits, then the point and exactly
  `places` fraction digits when places are asked for: what `fixed` writes for a finite magnitude
  (`fixed_abs_digits`);
* `numeral seps negative whole fraction suffix`   an optional minus, the grouped whole digits, the
  locale's point and the fraction when there is one, and the suffix;
* `formatNumber_numeral`   the text of such a number is that numeral, with the fraction's trailing
  zeros dropped and a minus only when something non-zero is left; it holds digits, the locale's
  separators, `-` and `%` only, so never `inf` nor `NaN`.

The guard against infinities reads the number before it is scaled, so a percentage beyond a
hundredth of the largest double overflows past it and is written `inf%`
(`percent_overflow_writes_inf`).
-/

namespace Phrasebook.Format

open Decimal

/-! ## What a style writes -/

def NumberStyle.scale : NumberStyle → Float → Float
  | .percent, x => x * 100
  | _, x => x

/-- the fraction digits a style rounds to -/
def NumberStyle.places : NumberStyle → Nat
  | .decimal => 3
  | _ => 0

def NumberStyle.suffix : NumberStyle → String
  | .percent => "%"
  | _ => ""

/-! ## Grouping digits -/

/-- digits with `sep` before every third digit counted from the right, never in front: the last
three digits are a group, and the digits before them are grouped the same way -/
def groupFromRight (sep ds : List Char) : List Char :=
  if ds.length ≤ 3 then ds
  else groupFromRight sep (ds.take (ds.length - 3)) ++ sep ++ ds.drop (ds.length - 3)
termination_by ds.length
decreasing_by simp only [List.length_take]; omega

def markGroups (sep ds : List Char) : List Char :=
  (ds.mapIdx fun i c => (if 0 < i ∧ (ds.length - i) % 3 = 0 then sep else []) ++ [c]).flatten

theorem markGroups_short (sep : List Char) {ds : List Char} (h : ds.length ≤ 3) :
    markGroups sep ds = ds := by
  match ds, h with
  | [], _ => rfl
  | [_], _ => simp [markGroups]
  | [_, _], _ => simp [markGroups]
  | [_, _, _], _ => simp [markGroups]

theorem groupDigits_toList (sep : String) (ds : List Char) :
    (groupDigits sep ds).toList = markGroups sep.toList ds := by
  simp only [groupDigits]
  split
  · next h => simp [markGroups_short _ h]
  · simp only [markGroups, String.toList_join, List.flatMap_def, List.mapIdx_eq_zipIdx_map,
      List.map_map]
    congr 1
    refine List.map_congr_left fun e _ => ?_
    by_cases hmark : 0 < e.2 ∧ (ds.length - e.2) % 3 = 0 <;> simp [hmark]

theorem markGroups_append (sep : List Char) {front back : List Char} (hf : front ≠ [])
    (hb : back.length = 3) :
    markGroups sep (front ++ back) = markGroups sep front ++ sep ++ back := by
  obtain ⟨a, b, c, rfl⟩ : ∃ a b c, back = [a, b, c] := by
    match back, hb with
    | [a, b, c], _ => exact ⟨a, b, c, rfl⟩
  have hpos : 0 < front.length := List.length_pos_of_ne_nil hf
  have hfront : (front.mapIdx fun i d =>
        (if 0 < i ∧ ((front ++ [a, b, c]).length - i) % 3 = 0 then sep else []) ++ [d]) =
      front.mapIdx fun i d => (if 0 < i ∧ (front.length - i) % 3 = 0 then sep else []) ++ [d] := by
    refine List.mapIdx_eq_mapIdx_iff.2 fun i hi => ?_
    have hmod : (front.length + 3 - i) % 3 = (front.length - i) % 3 := by omega
    simp [hmod]
  simp only [markGroups, List.mapIdx_append, List.flatten_append, hfront]
  have h1 : front.length + 3 - (1 + front.length) = 2 := by omega
  have h2 : front.length + 3 - (2 + front.length) = 1 := by omega
  simp [List.mapIdx_cons, hpos, h1, h2]

theorem markGroups_eq (sep ds : List Char) : markGroups sep ds = groupFromRight sep ds := by
  fun_induction groupFromRight sep ds with
  | case1 ds h => exact markGroups_short sep h
  | case2 ds h ih =>
    have hne : ds.take (ds.length - 3) ≠ [] := by
      intro he
      have := congrArg List.length he
      simp at this
      omega
    conv_lhs => rw [← List.take_append_drop (ds.length - 3) ds]
    rw [markGroups_append sep hne (by simp; omega), ih]

/-- `groupDigits` writes a separator before every third digit counted from the right, never in
front -/
theorem groupDigits_eq (sep : String) (ds : List Char) :
    (groupDigits sep ds).toList = groupFromRight sep.toList ds := by
  rw [groupDigits_toList, markGroups_eq]

example : groupDigits "," "1234567".toList = "1,234,567" := by decide

theorem mem_groupFromRight {sep ds : List Char} {c : Char} (h : c ∈ groupFromRight sep ds) :
    c ∈ ds ∨ c ∈ sep := by
  fun_induction groupFromRight sep ds with
  | case1 ds _ => exact .inl h
  | case2 ds _ ih =>
    simp only [List.mem_append] at h
    rcases h with (h | h) | h
    · rcases ih h with h | h
      · exact .inl (List.mem_of_mem_take h)
      · exact .inr h
    · exact .inr h
    · exact .inl (List.mem_of_mem_drop h)

/-! ## The digits of a fixed-point magnitude -/

/-- `s` is the whole digits, then the point and exactly `places` fraction digits when places are
asked for -/
structure FixedDigits (places : Nat) (s whole fraction : List Char) : Prop where
  whole_ne_nil : whole ≠ []
  whole_digits : ∀ c ∈ whole, c.isDigit
  fraction_length : fraction.length = places
  fraction_digits : ∀ c ∈ fraction, c.isDigit
  eq : s = if places = 0 then whole else whole ++ '.' :: fraction

theorem FixedDigits.split {places : Nat} {s whole fraction : List Char}
    (h : FixedDigits places s whole fraction) :
    s.takeWhile (· != '.') = whole ∧ (s.dropWhile (· != '.')).drop 1 = fraction := by
  have hpass : ∀ c ∈ whole, (c != '.') = true := fun c hc => by
    have hd := h.whole_digits c hc
    simp only [bne_iff_ne, ne_eq]
    rintro rfl
    exact absurd hd (by decide)
  rw [h.eq]
  split
  · next hp =>
    have hnil : fraction = [] := List.eq_nil_of_length_eq_zero (h.fraction_length.trans hp)
    simp [List.takeWhile_eq_self_iff.2 hpass, List.dropWhile_eq_nil_iff.2 hpass, hnil]
  · simp [List.takeWhile_append_of_pos hpass, List.dropWhile_append_of_pos hpass]

/-- a finite magnitude is written as whole digits, then the point and exactly `places` digits when
places are asked for: the rounded scaled value padded with zeros to `places + 1` digits, the point
standing `places` digits from the right -/
theorem fixed_abs_digits {v : Float} (hv : v.isFinite = true) (places : Nat) :
    ∃ whole fraction, FixedDigits places (fixed v.abs places).toList whole fraction := by
  obtain ⟨d, hd⟩ := (isFinite_iff_kind v).1 hv
  set digits := Nat.toDigits 10 (Dyadic.scaledRound { d with negative := false } places)
  set ds := List.replicate (places + 1 - digits.length) '0' ++ digits with hds
  have hlen : places + 1 ≤ ds.length := by simp only [ds, List.length_append, List.length_replicate]; omega
  have hdigits : ∀ c ∈ ds, c.isDigit := by
    intro c hc
    rcases List.mem_append.1 hc with h | h
    · rw [List.eq_of_mem_replicate h]
      rfl
    · exact Nat.isDigit_of_mem_toDigits (by decide) (by decide) h
  refine ⟨ds.take (ds.length - places), ds.drop (ds.length - places),
    ⟨?_, fun c hc => hdigits c (List.mem_of_mem_take hc), by simp; omega,
      fun c hc => hdigits c (List.mem_of_mem_drop hc), ?_⟩⟩
  · intro he
    have := congrArg List.length he
    simp at this
    omega
  · unfold fixed
    rw [kind_abs, hd]
    simp only [DoubleKind.magnitude]
    by_cases hp : places = 0 <;> simp [hp, ds, digits, String.toList_append]

/-! ## The numeral -/

/-- the numeral of a locale: a minus when `negative`, the whole digits grouped by threes from the
right, the point and the fraction when there is one, and the suffix -/
def numeral (seps : Separators) (negative : Bool) (whole fraction suffix : List Char) :
    List Char :=
  (if negative then ['-'] else []) ++ groupFromRight seps.group.toList whole ++
    (if fraction = [] then [] else seps.point :: fraction) ++ suffix

theorem mem_numeral {seps : Separators} {negative : Bool} {whole fraction suffix : List Char}
    {c : Char} (h : c ∈ numeral seps negative whole fraction suffix) :
    c = '-' ∨ c ∈ whole ∨ c ∈ seps.group.toList ∨ c = seps.point ∨ c ∈ fraction ∨ c ∈ suffix := by
  simp only [numeral, List.mem_append] at h
  rcases h with ((hsign | hwhole) | hfraction) | hsuffix
  · split at hsign <;> simp_all
  · rcases mem_groupFromRight hwhole with h | h
    · exact .inr (.inl h)
    · exact .inr (.inr (.inl h))
  · split at hfraction
    · simp at hfraction
    · rcases List.mem_cons.1 hfraction with h | h
      · exact .inr (.inr (.inr (.inl h)))
      · exact .inr (.inr (.inr (.inr (.inl h))))
  · exact .inr (.inr (.inr (.inr (.inr hsuffix))))

theorem dropTrailingZeros_subset (cs : List Char) : dropTrailingZeros cs ⊆ cs := fun c h => by
  rw [dropTrailingZeros, List.mem_reverse] at h
  exact List.mem_reverse.1 ((List.dropWhile_sublist _).subset h)

theorem separatorsFor_mem (l : Locale) :
    separatorsFor l ∈ [⟨".", ','⟩, ⟨"\u202F", ','⟩, ⟨"\u00A0", ','⟩, ⟨",", '.'⟩] := by
  simp only [separatorsFor]
  split_ifs <;> simp

theorem not_numeral_char (l : Locale) (c : Char) (hc : c ∈ ['i', 'N']) :
    ¬ (c.isDigit ∨ c ∈ (separatorsFor l).group.toList ∨ c = (separatorsFor l).point ∨ c = '-' ∨
      c = '%') := by
  have hs := separatorsFor_mem l
  simp only [List.mem_cons, List.not_mem_nil, or_false] at hc hs
  rcases hc with rfl | rfl <;> rcases hs with h | h | h | h <;> rw [h] <;> decide

theorem formatNumber_of_finite (l : Locale) (style : NumberStyle) {x : Float}
    (hx : x.isFinite = true) :
    formatNumber l x style =
      let rendered := (fixed (style.scale x).abs style.places).toList
      let whole := rendered.takeWhile (· != '.')
      let fraction := dropTrailingZeros ((rendered.dropWhile (· != '.')).drop 1)
      let isZero := whole.all (· == '0') && fraction.isEmpty
      (if style.scale x < 0 && !isZero then "-" else "") ++
        groupDigits (separatorsFor l).group whole ++
        (if fraction.isEmpty then "" else (separatorsFor l).point.toString ++ String.ofList fraction) ++
        style.suffix := by
  obtain ⟨hnan, hinf⟩ := isNaN_isInf_of_isFinite hx
  cases style <;> simp only [formatNumber, hnan, hinf, Bool.false_eq_true, ↓reduceIte] <;> rfl

theorem formatNumber_eq_numeral (l : Locale) (style : NumberStyle) {x : Float}
    (hx : x.isFinite = true) {whole fraction : List Char}
    (hd : FixedDigits style.places (fixed (style.scale x).abs style.places).toList whole fraction) :
    (formatNumber l x style).toList =
      numeral (separatorsFor l)
        (decide (style.scale x < 0) && !(whole.all (· == '0') && (dropTrailingZeros fraction).isEmpty))
        whole (dropTrailingZeros fraction) style.suffix.toList := by
  obtain ⟨hwhole, hfraction⟩ := hd.split
  rw [formatNumber_of_finite l style hx]
  simp only [hwhole, hfraction]
  simp [numeral, groupDigits_eq, String.toList_append, apply_ite String.toList]

/-- what the text of a number is when its written value is finite: the numeral of its fixed-point
digits, made of digits, the locale's separators, `-` and `%`, so never `inf` nor `NaN` -/
structure NumeralText (l : Locale) (style : NumberStyle) (x : Float) : Prop where
  eq_numeral : ∃ whole fraction,
    FixedDigits style.places (fixed (style.scale x).abs style.places).toList whole fraction ∧
    (formatNumber l x style).toList =
      numeral (separatorsFor l)
        (decide (style.scale x < 0) && !(whole.all (· == '0') && (dropTrailingZeros fraction).isEmpty))
        whole (dropTrailingZeros fraction) style.suffix.toList
  chars : ∀ c ∈ (formatNumber l x style).toList, c.isDigit ∨ c ∈ (separatorsFor l).group.toList ∨
    c = (separatorsFor l).point ∨ c = '-' ∨ c = '%'
  no_inf : ¬ "inf".toList <:+: (formatNumber l x style).toList
  no_nan : ¬ "NaN".toList <:+: (formatNumber l x style).toList

/-- A finite number whose written value is finite is written as a numeral of the locale. -/
theorem formatNumber_numeral (l : Locale) (style : NumberStyle) {x : Float}
    (hx : x.isFinite = true) (hv : (style.scale x).isFinite = true) : NumeralText l style x := by
  obtain ⟨whole, fraction, hd⟩ := fixed_abs_digits hv style.places
  have heq := formatNumber_eq_numeral l style hx hd
  have hchars : ∀ c ∈ (formatNumber l x style).toList, c.isDigit ∨
      c ∈ (separatorsFor l).group.toList ∨ c = (separatorsFor l).point ∨ c = '-' ∨ c = '%' := by
    intro c hc
    rw [heq] at hc
    rcases mem_numeral hc with h | h | h | h | h | h
    · exact .inr (.inr (.inr (.inl h)))
    · exact .inl (hd.whole_digits c h)
    · exact .inr (.inl h)
    · exact .inr (.inr (.inl h))
    · exact .inl (hd.fraction_digits c (dropTrailingZeros_subset _ h))
    · cases style <;> simp [NumberStyle.suffix] at h
      exact .inr (.inr (.inr (.inr h)))
  refine ⟨⟨whole, fraction, hd, heq⟩, hchars, fun h => ?_, fun h => ?_⟩
  · exact not_numeral_char l 'i' (by simp) (hchars _ (h.subset (by simp)))
  · exact not_numeral_char l 'N' (by simp) (hchars _ (h.subset (by simp)))

/-- A percentage in German: the minus, full stops between groups, rounded to a whole number. -/
theorem german_percent_numeral :
    (-12345.678 : Float).isFinite = true ∧
      (NumberStyle.percent.scale (-12345.678)).isFinite = true ∧
      NumeralText ⟨"de"⟩ .percent (-12345.678) := by
  have hx : (-12345.678 : Float).isFinite = true := by decide +kernel
  have hv : (NumberStyle.percent.scale (-12345.678)).isFinite = true := by decide +kernel
  exact ⟨hx, hv, formatNumber_numeral _ _ hx hv⟩

/-- The guard against infinities reads the number before it is scaled: `1e307` is finite, a
hundred times it is not, and its percentage is written `inf%`, which is no numeral. -/
theorem percent_overflow_writes_inf :
    (1e307 : Float).isFinite = true ∧ formatNumber ⟨"en"⟩ 1e307 .percent = "inf%" ∧
      ¬ NumeralText ⟨"en"⟩ .percent 1e307 := by
  have hwrite : formatNumber ⟨"en"⟩ 1e307 .percent = "inf%" := by decide +kernel
  refine ⟨by decide +kernel, hwrite, fun h => h.no_inf ?_⟩
  rw [hwrite]
  decide

end Phrasebook.Format
