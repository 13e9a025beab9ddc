import Mathlib
import Phrasebook.Decimal.Read
import Phrasebook.Proofs.Decimal.Rounding

/-!
# Exact decimal text of doubles

Every double can be written so that `readDouble` gives it back: `fullText` writes all the
digits of its exact value (a double's value `m · 2^-k` is `m · 5^k / 10^k`), and `inf`, `-inf`
or `NaN` for the other kinds. `integerText` writes the integer a double holds, as an integer
offset is written.

* `readDouble_fullText`   the full text of a double reads back as that double;
* `mem_fullText`          it holds only letters, digits and `-`;
* `integerText_spec`      the double nearest to a 64-bit integer is written as a 64-bit integer
                          that has the same nearest double.
-/

namespace Phrasebook.Decimal

/-- every digit of the exact value of a double: `±m·2^e` is written `±(m·2^e)` when `e ≥ 0` and
`±(m·5^k)e-k` when `e = -k`; the other kinds are `inf`, `-inf` and `NaN` -/
def fullText (x : Float) : List Char :=
  match DoubleKind.of x with
  | .nan => ['N', 'a', 'N']
  | .infinity negative => (if negative then ['-'] else []) ++ ['i', 'n', 'f']
  | .finite ⟨negative, m, e⟩ =>
    (if negative then ['-'] else []) ++
      if e ≥ 0 then Nat.toDigits 10 (m * 2 ^ e.toNat)
      else Nat.toDigits 10 (m * 5 ^ (-e).toNat) ++ 'e' :: '-' :: Nat.toDigits 10 (-e).toNat

theorem readDigits_append (ds rest : List Char) (acc n : Nat) (hds : ∀ c ∈ ds, c.isDigit)
    (hrest : ∀ c ∈ rest.head?, c.isDigit = false) :
    readDigits (ds ++ rest) acc n = (Nat.ofDigitChars 10 ds acc, n + ds.length, rest) := by
  induction ds generalizing acc n with
  | nil =>
    cases rest with
    | nil => rfl
    | cons c rest => simp [readDigits, hrest c rfl]
  | cons c ds ih =>
    rw [List.cons_append, readDigits, if_pos (hds c (List.mem_cons_self ..)),
      ih _ _ (fun c hc => hds c (List.mem_cons_of_mem _ hc)), Nat.ofDigitChars_cons,
      Nat.mul_comm 10 acc, List.length_cons, Nat.add_assoc, Nat.add_comm 1]

theorem readDigits_toDigits (v : Nat) (rest : List Char)
    (hrest : ∀ c ∈ rest.head?, c.isDigit = false) :
    readDigits (Nat.toDigits 10 v ++ rest) 0 0 = (v, (Nat.toDigits 10 v).length, rest) := by
  rw [readDigits_append _ _ _ _ (fun c hc => Nat.isDigit_of_mem_toDigits (by decide) (by decide) hc)
    hrest, Nat.ofDigitChars_ten_toDigits, Nat.zero_add]

theorem asciiLower_of_isDigit {c : Char} (h : c.isDigit) : asciiLower c = c := by
  have h' := Char.isDigit_iff_toNat.1 h
  have hup : c.isUpper = false := by
    have h0 : '0'.toNat = 48 := rfl
    have h9 : '9'.toNat = 57 := rfl
    have hA : 'A'.val.toNat = 65 := rfl
    have hc : c.val.toNat = c.toNat := rfl
    simp only [Char.isUpper, UInt32.le_iff_toNat_le, decide_eq_false_iff_not]
    omega
  simp [asciiLower, hup]

theorem word_ne_of_isDigit {c d : Char} {cs : List Char} (hc : c.isDigit) {w : String}
    (hw : w.toList.head? = some d) (hd : d.isDigit = false) :
    String.ofList ((c :: cs).map asciiLower) ≠ w := by
  intro h
  have hhead := congrArg (fun s : String => s.toList.head?) h
  simp only [String.toList_ofList, List.map_cons, List.head?_cons, asciiLower_of_isDigit hc,
    hw, Option.some.injEq] at hhead
  rw [hhead, hd] at hc
  exact Bool.noConfusion hc

theorem toDigits_head_isDigit (v : Nat) : ∃ c cs, Nat.toDigits 10 v = c :: cs ∧ c.isDigit := by
  obtain ⟨c, cs, h⟩ := List.exists_cons_of_ne_nil (Nat.toDigits_ne_nil (n := v) (b := 10))
  exact ⟨c, cs, h, Nat.isDigit_of_mem_toDigits (by decide : 0 < 10) (by decide : 10 ≤ 10)
    (by rw [h]; exact List.mem_cons_self ..)⟩

theorem not_word_of_isDigit {c : Char} (cs : List Char) (hc : c.isDigit) :
    ¬(String.ofList ((c :: cs).map asciiLower) = "inf" ∨
      String.ofList ((c :: cs).map asciiLower) = "infinity") ∧
    String.ofList ((c :: cs).map asciiLower) ≠ "nan" :=
  ⟨not_or.2 ⟨word_ne_of_isDigit hc (by simp : "inf".toList.head? = some 'i') rfl,
      word_ne_of_isDigit hc (by simp : "infinity".toList.head? = some 'i') rfl⟩,
    word_ne_of_isDigit hc (by simp : "nan".toList.head? = some 'n') rfl⟩

theorem readExponent_neg (k : Nat) :
    readExponent ('e' :: '-' :: Nat.toDigits 10 k) = some (-(k : Int)) := by
  have h := readDigits_toDigits k [] (by simp)
  rw [List.append_nil] at h
  simp [readExponent, h]

theorem readUnsigned_exp (negative : Bool) (v k : Nat) :
    readUnsigned negative (Nat.toDigits 10 v ++ 'e' :: '-' :: Nat.toDigits 10 k) =
      some (.finite negative v (-(k : Int))) := by
  obtain ⟨c, cs, hcs, hc⟩ := toDigits_head_isDigit v
  have hv := readDigits_toDigits v ('e' :: '-' :: Nat.toDigits 10 k) (by simp)
  have hword := not_word_of_isDigit (cs ++ 'e' :: '-' :: Nat.toDigits 10 k) hc
  rw [← List.cons_append, ← hcs] at hword
  unfold readUnsigned
  rw [if_neg hword.1, if_neg hword.2, hv]
  simp [readExponent_neg]

theorem readUnsigned_digits (negative : Bool) (v : Nat) :
    readUnsigned negative (Nat.toDigits 10 v) = some (.finite negative v 0) := by
  obtain ⟨c, cs, hcs, hc⟩ := toDigits_head_isDigit v
  have hv := readDigits_toDigits v [] (by simp)
  rw [List.append_nil] at hv
  have hword := not_word_of_isDigit cs hc
  rw [← hcs] at hword
  unfold readUnsigned
  rw [if_neg hword.1, if_neg hword.2, hv]
  simp [readExponent]

theorem read_signed (negative : Bool) {c : Char} (cs : List Char) (hc : c ≠ '-' ∧ c ≠ '+') :
    Literal.read (String.ofList ((if negative then ['-'] else []) ++ c :: cs)) =
      readUnsigned negative (c :: cs) := by
  cases negative with
  | true => simp [Literal.read]
  | false =>
    simp only [Literal.read, String.toList_ofList]
    split
    · next h => exact absurd (List.cons.inj h).1 hc.1
    · next h => exact absurd (List.cons.inj h).1 hc.2
    · rfl

theorem digitCount_le_iff {v D : Nat} (hD : 0 < D) : digitCount v ≤ D ↔ v < 10 ^ D := by
  unfold digitCount
  rw [Nat.toString_eq_repr]
  exact Nat.length_repr_le_iff hD

theorem digitCount_pos (v : Nat) : 0 < digitCount v := by
  unfold digitCount
  rw [Nat.toString_eq_repr]
  exact Nat.length_repr_pos

theorem digitCount_mul_five_pow_le {m : Nat} (hm : m < 2 ^ 53) (k : Nat) :
    digitCount (m * 5 ^ k) ≤ k + 310 := by
  rw [digitCount_le_iff (by omega)]
  calc m * 5 ^ k < 2 ^ 53 * 5 ^ k := Nat.mul_lt_mul_of_pos_right hm (by positivity)
    _ ≤ 10 ^ 310 * 5 ^ k := Nat.mul_le_mul_right _ (by decide +kernel)
    _ ≤ 10 ^ 310 * 10 ^ k := Nat.mul_le_mul_left _ (Nat.pow_le_pow_left (by norm_num) k)
    _ = 10 ^ (k + 310) := by rw [← pow_add, Nat.add_comm]

theorem le_digitCount_mul_five_pow {m k : Nat} (hm : 0 < m) (hk : k ≤ 1074) :
    k ≤ digitCount (m * 5 ^ k) + 326 := by
  by_contra hlow
  replace hlow := not_le.1 hlow
  obtain ⟨t, rfl⟩ : ∃ t, k = t + 327 := ⟨k - 327, by omega⟩
  have hD : m * 5 ^ (t + 327) < 10 ^ t :=
    lt_of_lt_of_le ((digitCount_le_iff (digitCount_pos _)).1 le_rfl)
      (Nat.pow_le_pow_right (by norm_num) (by omega))
  have h1 : 5 ^ t * 5 ^ 327 < 5 ^ t * 2 ^ t := calc
    5 ^ t * 5 ^ 327 = 5 ^ (t + 327) := (pow_add ..).symm
    _ ≤ m * 5 ^ (t + 327) := Nat.le_mul_of_pos_left _ hm
    _ < 10 ^ t := hD
    _ = 5 ^ t * 2 ^ t := by rw [show (10 : ℕ) = 5 * 2 from rfl, mul_pow]
  have h2 : 5 ^ 327 < 2 ^ t := Nat.lt_of_mul_lt_mul_left h1
  have h3 : 2 ^ t ≤ 2 ^ 747 := Nat.pow_le_pow_right two_pos (show t ≤ 747 by omega)
  have h4 : 2 ^ 747 < 5 ^ 327 := by decide +kernel
  exact absurd (lt_trans (lt_of_lt_of_le h2 h3) h4) (lt_irrefl _)

theorem digitCount_mul_two_pow_le {m : Nat} {e : Int} (hs : Stored m e) (he : 0 ≤ e) :
    digitCount (m * 2 ^ e.toNat) ≤ 310 := by
  obtain ⟨-, he', hm, -⟩ := hs
  rw [digitCount_le_iff (by omega)]
  calc m * 2 ^ e.toNat < 2 ^ 53 * 2 ^ e.toNat := Nat.mul_lt_mul_of_pos_right hm (by positivity)
    _ ≤ 2 ^ 53 * 2 ^ 971 := Nat.mul_le_mul_left _ (Nat.pow_le_pow_right (by norm_num) (by omega))
    _ < 10 ^ 310 := by decide +kernel

theorem toDouble_exp {m : Nat} {e : Int} (negative : Bool) (hs : Stored m e) (hm : 0 < m)
    (he : e < 0) :
    (Literal.finite negative (m * 5 ^ (-e).toNat) (-((-e).toNat : Int))).toDouble =
      Float.ofBits (UInt64.ofNat (doubleBits negative m e)) := by
  have hk : ((-e).toNat : Int) = -e := Int.toNat_of_nonneg (by omega)
  have hlow := le_digitCount_mul_five_pow hm (k := (-e).toNat) (by have := hs.1; omega)
  have hhigh := digitCount_mul_five_pow_le hs.2.2.1 (-e).toNat
  have hv : ((m * 5 ^ (-e).toNat : ℕ) : ℚ) = m * 2 ^ e * ((Nat.pow 10 (-e).toNat : ℕ) : ℚ) := by
    have hinv := two_zpow_mul_of_neg he
    rw [Nat.pow_eq, show (10 : ℕ) = 2 * 5 from rfl, mul_pow] at *
    push_cast at *
    calc (m : ℚ) * 5 ^ (-e).toNat = m * (2 ^ e * 2 ^ (-e).toNat) * 5 ^ (-e).toNat := by
          rw [hinv, mul_one]
      _ = m * 2 ^ e * (2 ^ (-e).toNat * 5 ^ (-e).toNat) := by ring
  unfold Literal.toDouble Literal.roundWith
  dsimp only
  rw [if_neg (by positivity), if_neg (by omega), if_neg (by omega), if_neg (by omega),
    show (-(-((-e).toNat : Int))).toNat = (-e).toNat by omega]
  exact doubleOfRatio_stored negative (by rw [Nat.pow_eq]; positivity) hm hs hv

theorem toDouble_integer {m : Nat} {e : Int} (negative : Bool) (hs : Stored m e) (hm : 0 < m)
    (he : 0 ≤ e) :
    (Literal.finite negative (m * 2 ^ e.toNat) 0).toDouble =
      Float.ofBits (UInt64.ofNat (doubleBits negative m e)) := by
  have hhigh := digitCount_mul_two_pow_le hs he
  have hv : ((m * 2 ^ e.toNat * Nat.pow 10 (0 : Int).toNat : ℕ) : ℚ) = m * 2 ^ e * ((1 : ℕ) : ℚ) := by
    rw [two_zpow_of_nonneg he]
    push_cast
    ring
  unfold Literal.toDouble Literal.roundWith
  dsimp only
  rw [if_neg (by positivity), if_neg (by omega), if_neg (by omega), if_pos le_rfl]
  exact doubleOfRatio_stored negative one_pos hm hs hv

theorem toDouble_zero (negative : Bool) (exponent : Int) :
    (Literal.finite negative 0 exponent).toDouble =
      Float.ofBits (UInt64.ofNat (doubleBits negative 0 (-1074))) := by
  unfold Literal.toDouble Literal.roundWith doubleOfRatio
  simp [doubleBits]

theorem read_signed_digits (negative : Bool) (v : Nat) (rest : List Char) :
    Literal.read (String.ofList ((if negative then ['-'] else []) ++ (Nat.toDigits 10 v ++ rest))) =
      readUnsigned negative (Nat.toDigits 10 v ++ rest) := by
  obtain ⟨c, cs, hcs, hc⟩ := toDigits_head_isDigit v
  have hsign : c ≠ '-' ∧ c ≠ '+' := by
    constructor <;> (rintro rfl; revert hc; decide)
  rw [hcs, List.cons_append, read_signed negative _ hsign]

/-- the full text of a double reads back as that double -/
theorem readDouble_fullText (x : Float) : readDouble (String.ofList (fullText x)) = some x := by
  unfold readDouble fullText
  rcases hk : DoubleKind.of x with _ | negative | ⟨negative, m, e⟩
  · rw [eq_ofBits_of_kind_nan hk]
    rfl
  · have hread : Literal.read (String.ofList ((if negative then ['-'] else []) ++ ['i', 'n', 'f'])) =
        some (.infinity negative) := by
      rw [read_signed negative _ (by decide)]
      cases negative <;> decide
    rw [hread, eq_ofBits_of_kind_infinity hk]
    rfl
  · obtain ⟨hs, hx⟩ := eq_ofBits_of_kind_finite hk
    dsimp only
    by_cases he : 0 ≤ e
    · have hm : 0 < m := by
        rcases hs.2.2.2 with h | h
        · exact lt_of_lt_of_le (by positivity) h
        · omega
      have htext := read_signed_digits negative (m * 2 ^ e.toNat) []
      rw [List.append_nil] at htext
      rw [if_pos he, htext, readUnsigned_digits, Option.map_some, toDouble_integer negative hs hm he,
        ← hx]
    · rw [if_neg he, read_signed_digits, readUnsigned_exp, Option.map_some]
      rcases Nat.eq_zero_or_pos m with rfl | hm
      · rw [Nat.zero_mul, toDouble_zero, hx, show e = -1074 by have := hs.2.2.2; omega]
      · rw [toDouble_exp negative hs hm (by omega), ← hx]

/-- digits, a minus sign and the letters of `e`, `inf` and `NaN` are all that `fullText`
writes -/
theorem mem_fullText {x : Float} {c : Char} (h : c ∈ fullText x) : c.isAlphanum ∨ c = '-' := by
  have hdigits : ∀ v, c ∈ Nat.toDigits 10 v → c.isAlphanum ∨ c = '-' := fun v hv => by
    have hd := Nat.isDigit_of_mem_toDigits (by decide : 0 < 10) (by decide : 10 ≤ 10) hv
    simp [Char.isAlphanum, hd]
  have hsign : ∀ negative : Bool, c ∈ (if negative then ['-'] else []) → c = '-' := by
    intro negative hc
    cases negative <;> simp_all
  unfold fullText at h
  split at h
  · simp only [List.mem_cons, List.not_mem_nil, or_false] at h
    rcases h with rfl | rfl | rfl <;> decide
  · rcases List.mem_append.1 h with h | h
    · exact Or.inr (hsign _ h)
    · simp only [List.mem_cons, List.not_mem_nil, or_false] at h
      rcases h with rfl | rfl | rfl <;> decide
  · rcases List.mem_append.1 h with h | h
    · exact Or.inr (hsign _ h)
    · split at h
      · exact hdigits _ h
      · rcases List.mem_append.1 h with h | h
        · exact hdigits _ h
        · simp only [List.mem_cons] at h
          rcases h with rfl | rfl | h
          · decide
          · decide
          · exact hdigits _ h

/-- the integer part of a double's value, at most `2^63 - 1` in magnitude, with a minus sign when
the double is negative: how an integer offset is written -/
def integerText (x : Float) : List Char :=
  match DoubleKind.of x with
  | .finite ⟨negative, m, e⟩ =>
    (if negative then ['-'] else []) ++
      Nat.toDigits 10 (min (if e ≥ 0 then m * 2 ^ e.toNat else m / 2 ^ (-e).toNat) (2 ^ 63 - 1))
  | _ => ['0']

theorem intPart_eq {m j : Nat} {e : Int} (hj : (j : ℚ) = m * 2 ^ e) :
    (if e ≥ 0 then m * 2 ^ e.toNat else m / 2 ^ (-e).toNat) = j := by
  split
  · next he =>
    rw [two_zpow_of_nonneg he] at hj
    exact_mod_cast hj.symm
  · next he =>
    have hm : m = j * 2 ^ (-e).toNat := by
      have hinv := two_zpow_mul_of_neg (by omega : e < 0)
      have : (m : ℚ) = j * ((2 ^ (-e).toNat : ℕ) : ℚ) := by
        rw [hj, mul_assoc, hinv, mul_one]
      exact_mod_cast this
    rw [hm, Nat.mul_div_cancel _ (by positivity)]

theorem doubleOfRatio_zero (negative : Bool) :
    doubleOfRatio negative 0 1 = Float.ofBits (UInt64.ofNat (doubleBits negative 0 (-1074))) := by
  unfold doubleOfRatio
  simp [doubleBits]

/-- the double nearest to an integer `k` of magnitude at most `2^63` is written as an integer
below `2^63` with the sign of `k`, and that integer has the same nearest double -/
theorem integerText_spec (k : Int) (hlo : -2 ^ 63 ≤ k) (hhi : k < 2 ^ 63) :
    ∃ j : Nat, j < 2 ^ 63 ∧ (k < 0 → 0 < j) ∧
      integerText (doubleOfRatio (decide (k < 0)) k.natAbs 1) =
        (if decide (k < 0) then ['-'] else []) ++ Nat.toDigits 10 j ∧
      doubleOfRatio (decide (k < 0)) j 1 = doubleOfRatio (decide (k < 0)) k.natAbs 1 := by
  rcases Nat.eq_zero_or_pos k.natAbs with hzero | hn
  · have hk : k = 0 := Int.natAbs_eq_zero.1 hzero
    subst hk
    have hs : Stored 0 (-1074) := ⟨le_rfl, by omega, by positivity, Or.inr rfl⟩
    refine ⟨0, by positivity, by omega, ?_, rfl⟩
    rw [hzero, doubleOfRatio_zero]
    unfold integerText
    rw [kind_ofBits_stored hs]
    dsimp only
    rw [if_neg (by decide : ¬((-1074 : Int) ≥ 0)), Nat.zero_div, Nat.zero_min]
  · have hle : k.natAbs ≤ 2 ^ 63 := by omega
    obtain ⟨m, e, hround, hs, hm, j, hj, hjle⟩ := roundToFormat_integer hn hle
    have hx : doubleOfRatio (decide (k < 0)) k.natAbs 1 =
        Float.ofBits (UInt64.ofNat (doubleBits (decide (k < 0)) m e)) := by
      unfold doubleOfRatio
      rw [if_neg (by simp; omega), hround]
    have hjpos : 0 < j := by
      have : (0 : ℚ) < j := by rw [hj]; positivity
      exact_mod_cast this
    refine ⟨min j (2 ^ 63 - 1), by omega, fun _ => by omega, ?_, ?_⟩
    · unfold integerText
      rw [hx, kind_ofBits_stored hs]
      dsimp only
      rw [intPart_eq hj]
    · rw [hx]
      rcases Nat.lt_or_ge j (2 ^ 63) with hlt | hge
      · rw [Nat.min_eq_left (by omega)]
        exact doubleOfRatio_stored _ one_pos hm hs (by rw [hj, Nat.cast_one, mul_one])
      · have hj63 : j = 2 ^ 63 := by omega
        have hme : (m, e) = (2 ^ 52, 11) := by
          have h1 : roundToFormat Format.double (2 ^ 63) 1 = some (m, e) :=
            roundToFormat_stored one_pos hm hs (by rw [Nat.cast_one, mul_one, ← hj, hj63])
          have h2 : roundToFormat Format.double (2 ^ 63) 1 = some (2 ^ 52, 11) := by decide
          rw [h2] at h1
          exact (Option.some.inj h1).symm
        obtain ⟨rfl, rfl⟩ := Prod.mk.inj hme
        rw [Nat.min_eq_right (by omega)]
        unfold doubleOfRatio
        rw [if_neg (by decide)]
        rw [show roundToFormat Format.double (2 ^ 63 - 1) 1 = some (2 ^ 52, 11) by decide]

end Phrasebook.Decimal
