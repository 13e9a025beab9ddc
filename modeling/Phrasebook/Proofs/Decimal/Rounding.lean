import Mathlib
import Phrasebook.Proofs.Decimal.Bits

/-!
# Rounding a ratio to a double

`roundToFormat` finds `⌊log₂ (n / d)⌋`, picks the exponent that leaves 53 significand bits (or
the least one), rounds the scaled ratio to an integer and carries a significand that rounded up
to `2^53`. The three steps are `roundExponent`, `roundAt` and `carry`.

* `floorLog2Ratio_spec`      `floorLog2Ratio n d` is `⌊log₂ (n / d)⌋`;
* `roundToFormat_stored`     a value that a double holds exactly is rounded to itself;
* `doubleOfRatio_stored`     so `doubleOfRatio` gives the double with the bits of that value;
* `roundToFormat_integer`    an integer of magnitude at most `2^63` rounds to a stored value that
                             is again such an integer.
-/

namespace Phrasebook.Decimal

def IsFloorLog2 (n d : Nat) (L : Int) : Prop :=
  (2 : ℚ) ^ L * d ≤ n ∧ (n : ℚ) < 2 ^ (L + 1) * d

theorem IsFloorLog2.unique {n d : Nat} {L L' : Int} (h : IsFloorLog2 n d L)
    (h' : IsFloorLog2 n d L') : L = L' := by
  have hd : (0 : ℚ) ≤ d := Nat.cast_nonneg d
  by_contra hne
  rcases lt_or_gt_of_ne hne with hlt | hlt
  · have hpow : (2 : ℚ) ^ (L + 1) ≤ 2 ^ L' := zpow_le_zpow_right₀ one_le_two (by omega)
    have := mul_le_mul_of_nonneg_right hpow hd
    linarith [h.2, h'.1]
  · have hpow : (2 : ℚ) ^ (L' + 1) ≤ 2 ^ L := zpow_le_zpow_right₀ one_le_two (by omega)
    have := mul_le_mul_of_nonneg_right hpow hd
    linarith [h.1, h'.2]

theorem two_zpow_of_nonneg {e : Int} (he : 0 ≤ e) : (2 : ℚ) ^ e = ((2 ^ e.toNat : ℕ) : ℚ) := by
  rw [Nat.cast_pow, Nat.cast_ofNat, ← zpow_natCast, Int.toNat_of_nonneg he]

theorem two_zpow_mul_of_neg {e : Int} (he : e < 0) :
    (2 : ℚ) ^ e * ((2 ^ (-e).toNat : ℕ) : ℚ) = 1 := by
  rw [Nat.cast_pow, Nat.cast_ofNat, ← zpow_natCast, Int.toNat_of_nonneg (by omega),
    ← zpow_add₀ two_ne_zero, add_neg_cancel, zpow_zero]

theorem below_iff (n d : Nat) (e : Int) :
    (if e ≥ 0 then decide (n < d * Nat.pow 2 e.toNat) else decide (n * Nat.pow 2 (-e).toNat < d)) =
      decide ((n : ℚ) < 2 ^ e * d) := by
  split
  · next he =>
    rw [decide_eq_decide, two_zpow_of_nonneg he, Nat.pow_eq, ← Nat.cast_mul, Nat.cast_lt,
      Nat.mul_comm]
  · next he =>
    have hk := two_zpow_mul_of_neg (by omega : e < 0)
    have hpos : (0 : ℚ) < ((2 ^ (-e).toNat : ℕ) : ℚ) := by positivity
    rw [Nat.pow_eq, decide_eq_decide, ← mul_lt_mul_iff_of_pos_right hpos,
      show (2 : ℚ) ^ e * d * ((2 ^ (-e).toNat : ℕ) : ℚ) = d by
        rw [mul_right_comm, hk, one_mul]]
    exact_mod_cast Iff.rfl

/-- `floorLog2Ratio` finds `⌊log₂ (n / d)⌋` -/
theorem floorLog2Ratio_spec {n d : Nat} (hn : 0 < n) (hd : 0 < d) :
    IsFloorLog2 n d (floorLog2Ratio n d) := by
  have hn1 : (2 : ℚ) ^ (n.log2 : Int) ≤ n := by
    rw [zpow_natCast]; exact_mod_cast Nat.log2_self_le (by omega)
  have hn2 : (n : ℚ) < 2 ^ ((n.log2 : Int) + 1) := by
    rw [← Nat.cast_succ, zpow_natCast]; exact_mod_cast Nat.lt_log2_self
  have hd1 : (2 : ℚ) ^ (d.log2 : Int) ≤ d := by
    rw [zpow_natCast]; exact_mod_cast Nat.log2_self_le (by omega)
  have hd2 : (d : ℚ) < 2 ^ ((d.log2 : Int) + 1) := by
    rw [← Nat.cast_succ, zpow_natCast]; exact_mod_cast Nat.lt_log2_self
  unfold floorLog2Ratio
  simp only [below_iff n d]
  set e : Int := (n.log2 : Int) - d.log2 with he
  by_cases hb : (n : ℚ) < 2 ^ e * d
  · rw [decide_eq_true hb, if_pos rfl]
    refine ⟨?_, by rwa [sub_add_cancel]⟩
    calc (2 : ℚ) ^ (e - 1) * d
        ≤ 2 ^ (e - 1) * 2 ^ ((d.log2 : Int) + 1) := by gcongr
      _ = 2 ^ (n.log2 : Int) := by rw [← zpow_add₀ two_ne_zero]; congr 1; omega
      _ ≤ n := hn1
  · rw [decide_eq_false hb, if_neg (by simp)]
    refine ⟨not_lt.1 hb, ?_⟩
    calc (n : ℚ)
        < 2 ^ ((n.log2 : Int) + 1) := hn2
      _ = 2 ^ (e + 1) * 2 ^ (d.log2 : Int) := by rw [← zpow_add₀ two_ne_zero]; congr 1; omega
      _ ≤ 2 ^ (e + 1) * d := by gcongr

theorem floorLog2Ratio_eq {n d : Nat} {L : Int} (hn : 0 < n) (hd : 0 < d) (h : IsFloorLog2 n d L) :
    floorLog2Ratio n d = L :=
  (floorLog2Ratio_spec hn hd).unique h

/-- the exponent `roundToFormat` rounds at: the one that leaves `precision` significand bits,
or the least one of the format -/
def roundExponent (fmt : Format) (n d : Nat) : Int :=
  max (floorLog2Ratio n d - (fmt.precision - 1 : Nat)) fmt.minExponent

/-- the significand `roundToFormat` picks at exponent `e`: `n / d / 2^e`, rounded -/
def roundAt (n d : Nat) (e : Int) : Nat :=
  if e ≥ 0 then roundHalfEven n (d * Nat.pow 2 e.toNat)
  else roundHalfEven (n * Nat.pow 2 (-e).toNat) d

/-- the last step of `roundToFormat`: a significand rounded up to `2^precision` is halved, and
an exponent beyond the format overflows -/
def carry (fmt : Format) (m : Nat) (e : Int) : Option (Nat × Int) :=
  let (m, e) := if m == Nat.pow 2 fmt.precision then (m / 2, e + 1) else (m, e)
  if e > fmt.maxExponent then none else some (m, e)

theorem roundToFormat_eq_carry (fmt : Format) (n d : Nat) :
    roundToFormat fmt n d =
      carry fmt (roundAt n d (roundExponent fmt n d)) (roundExponent fmt n d) := rfl

theorem carry_of_lt {m : Nat} {e : Int} (hm : m < 2 ^ 53) (he : e ≤ 971) :
    carry Format.double m e = some (m, e) := by
  have hne : (m == Nat.pow 2 Format.double.precision) = false := by
    rw [beq_eq_false_iff_ne]; show m ≠ 2 ^ 53; omega
  simp only [carry, hne]
  rw [if_neg (by show ¬e > 971; omega)]
  rfl

theorem carry_of_eq {e : Int} (he : e + 1 ≤ 971) :
    carry Format.double (2 ^ 53) e = some (2 ^ 52, e + 1) := by
  have heq : ((2 ^ 53 : Nat) == Nat.pow 2 Format.double.precision) = true := rfl
  simp only [carry, heq]
  rw [if_neg (by show ¬e + 1 > 971; omega)]
  rfl

theorem roundAt_exact {n d m : Nat} {e : Int} (hd : 0 < d) (hv : (n : ℚ) = m * 2 ^ e * d) :
    roundAt n d e = m := by
  unfold roundAt
  split
  · next he =>
    have hn : n = m * (d * Nat.pow 2 e.toNat) := by
      rw [two_zpow_of_nonneg he] at hv
      rw [Nat.pow_eq]
      exact_mod_cast (by rw [hv]; ring : (n : ℚ) = m * (d * ((2 ^ e.toNat : ℕ) : ℚ)))
    rw [hn, roundHalfEven_exact _ _ (by rw [Nat.pow_eq]; positivity)]
  · next he =>
    have hk := two_zpow_mul_of_neg (by omega : e < 0)
    have hn : n * Nat.pow 2 (-e).toNat = m * d := by
      rw [Nat.pow_eq]
      exact_mod_cast (calc (n : ℚ) * ((2 ^ (-e).toNat : ℕ) : ℚ)
          = m * d * (2 ^ e * ((2 ^ (-e).toNat : ℕ) : ℚ)) := by rw [hv]; ring
        _ = m * d := by rw [hk, mul_one])
    rw [hn, roundHalfEven_exact _ _ hd]

theorem isFloorLog2_of_value {n d m : Nat} {e : Int} (hd : 0 < d) (hm : 0 < m) (hv : (n : ℚ) = m * 2 ^ e * d) :
    IsFloorLog2 n d (m.log2 + e) := by
  have hm1 : (2 : ℚ) ^ (m.log2 : Int) ≤ m := by
    rw [zpow_natCast]; exact_mod_cast Nat.log2_self_le (by omega)
  have hm2 : (m : ℚ) < 2 ^ ((m.log2 : Int) + 1) := by
    rw [← Nat.cast_succ, zpow_natCast]; exact_mod_cast Nat.lt_log2_self
  constructor
  · rw [hv, zpow_add₀ two_ne_zero]
    gcongr
  · rw [hv, show (m.log2 : Int) + e + 1 = ((m.log2 : Int) + 1) + e by ring, zpow_add₀ two_ne_zero]
    have hdpos : (0 : ℚ) < d := by exact_mod_cast hd
    exact mul_lt_mul_of_pos_right (mul_lt_mul_of_pos_right hm2 (zpow_pos two_pos e)) hdpos

theorem log2_le_of_lt {m : Nat} (hm : m < 2 ^ 53) : m.log2 ≤ 52 := by
  rcases Nat.eq_zero_or_pos m with rfl | hpos
  · decide
  · exact Nat.lt_succ_iff.1 ((Nat.log2_lt (by omega)).2 hm)

theorem roundExponent_stored {n d m : Nat} {e : Int} (hd : 0 < d) (hm : 0 < m) (hs : Stored m e)
    (hv : (n : ℚ) = m * 2 ^ e * d) : roundExponent Format.double n d = e := by
  obtain ⟨he, he', hm53, hnorm⟩ := hs
  have hn : 0 < n := by
    have : (0 : ℚ) < n := by rw [hv]; positivity
    exact_mod_cast this
  have hlog := log2_le_of_lt hm53
  unfold roundExponent
  rw [floorLog2Ratio_eq hn hd (isFloorLog2_of_value hd hm hv)]
  show max ((m.log2 : Int) + e - (52 : Nat)) (-1074) = e
  rcases hnorm with h | h
  · have : m.log2 = 52 := le_antisymm hlog ((Nat.le_log2 (by omega)).2 h)
    omega
  · omega

/-- a value that a double holds exactly rounds to itself -/
theorem roundToFormat_stored {n d m : Nat} {e : Int} (hd : 0 < d) (hm : 0 < m) (hs : Stored m e)
    (hv : (n : ℚ) = m * 2 ^ e * d) : roundToFormat Format.double n d = some (m, e) := by
  rw [roundToFormat_eq_carry, roundExponent_stored hd hm hs hv, roundAt_exact hd hv]
  exact carry_of_lt hs.2.2.1 hs.2.1

/-- the double nearest to a ratio whose value a double holds exactly is the double with the bits
of that value -/
theorem doubleOfRatio_stored {n d m : Nat} {e : Int} (negative : Bool) (hd : 0 < d) (hm : 0 < m)
    (hs : Stored m e) (hv : (n : ℚ) = m * 2 ^ e * d) :
    doubleOfRatio negative n d = Float.ofBits (UInt64.ofNat (doubleBits negative m e)) := by
  have hn : n ≠ 0 := by
    rintro rfl
    have : (0 : ℚ) < m * 2 ^ e * d := by positivity
    rw [← hv] at this
    exact lt_irrefl _ (by exact_mod_cast this)
  unfold doubleOfRatio
  rw [if_neg (by simp [hn, hd.ne']), roundToFormat_stored hd hm hs hv]

theorem div_le_roundHalfEven (a b : Nat) : a / b ≤ roundHalfEven a b := by
  unfold roundHalfEven
  dsimp only
  split_ifs <;> omega

theorem roundHalfEven_mul_lt {a b : Nat} (hb : 0 < b) : roundHalfEven a b * b < a + b := by
  have hsplit := Nat.div_add_mod a b
  have hr := Nat.mod_lt a hb
  unfold roundHalfEven
  dsimp only
  split_ifs <;> (try simp only [beq_iff_eq] at *) <;> rw [Nat.mul_comm] <;>
    (try rw [Nat.mul_succ]) <;> omega

/-- an integer of magnitude at most `2^63` rounds to a stored value that is again an integer
of magnitude at most `2^63` -/
theorem roundToFormat_integer {n : Nat} (hn : 0 < n) (hle : n ≤ 2 ^ 63) :
    ∃ m e, roundToFormat Format.double n 1 = some (m, e) ∧ Stored m e ∧ 0 < m ∧
      ∃ j : Nat, (j : ℚ) = m * 2 ^ e ∧ j ≤ 2 ^ 63 := by
  have hk1 : 2 ^ n.log2 ≤ n := Nat.log2_self_le (by omega)
  have hk2 : n < 2 ^ (n.log2 + 1) := Nat.lt_log2_self
  have hk63 : n.log2 ≤ 63 := by
    by_contra h
    have : 2 ^ 64 ≤ 2 ^ n.log2 := Nat.pow_le_pow_right (by norm_num) (by omega)
    omega
  have hE : roundExponent Format.double n 1 = (n.log2 : Int) - 52 := by
    unfold roundExponent
    rw [floorLog2Ratio_eq hn one_pos (isFloorLog2_of_value one_pos hn
      (by simp : (n : ℚ) = n * 2 ^ (0 : Int) * ((1 : ℕ) : ℚ)))]
    show max ((n.log2 : Int) + 0 - (52 : Nat)) (-1074) = _
    omega
  rw [roundToFormat_eq_carry, hE]
  by_cases hsmall : n.log2 ≤ 52
  · have hval : (n : ℚ) = ((n * 2 ^ (52 - n.log2) : ℕ) : ℚ) * 2 ^ ((n.log2 : Int) - 52) := by
      rw [Nat.cast_mul, Nat.cast_pow, Nat.cast_ofNat, mul_assoc, ← zpow_natCast,
        ← zpow_add₀ two_ne_zero, show ((52 - n.log2 : ℕ) : ℤ) + ((n.log2 : ℤ) - 52) = 0 by omega,
        zpow_zero, mul_one]
    have hm1 : 2 ^ 52 ≤ n * 2 ^ (52 - n.log2) := calc
      2 ^ 52 = 2 ^ n.log2 * 2 ^ (52 - n.log2) := by rw [← pow_add]; congr 1; omega
      _ ≤ n * 2 ^ (52 - n.log2) := Nat.mul_le_mul_right _ hk1
    have hm2 : n * 2 ^ (52 - n.log2) < 2 ^ 53 := calc
      n * 2 ^ (52 - n.log2) < 2 ^ (n.log2 + 1) * 2 ^ (52 - n.log2) :=
        Nat.mul_lt_mul_of_pos_right hk2 (by positivity)
      _ = 2 ^ 53 := by rw [← pow_add]; congr 1; omega
    have hround : roundAt n 1 ((n.log2 : Int) - 52) = n * 2 ^ (52 - n.log2) :=
      roundAt_exact one_pos (by rw [Nat.cast_one, mul_one]; exact hval)
    rw [hround, carry_of_lt hm2 (by omega)]
    exact ⟨_, _, rfl, ⟨by omega, by omega, hm2, Or.inl hm1⟩, by omega, n, hval, hle⟩
  · obtain ⟨s, hs⟩ : ∃ s, n.log2 = 52 + s := ⟨n.log2 - 52, by omega⟩
    have hroundAt : roundAt n 1 ((n.log2 : Int) - 52) = roundHalfEven n (2 ^ s) := by
      unfold roundAt
      rw [if_pos (by omega), show ((n.log2 : Int) - 52).toNat = s by omega, Nat.one_mul,
        Nat.pow_eq]
    rw [hroundAt]
    have hpow : 0 < 2 ^ s := by positivity
    rw [hs] at hk1 hk2
    have hk2' : n < 2 ^ (53 + s) := by rw [show 53 + s = 52 + s + 1 by omega]; exact hk2
    have hup := roundHalfEven_mul_lt (a := n) hpow
    have hlo : 2 ^ 52 ≤ roundHalfEven n (2 ^ s) :=
      le_trans ((Nat.le_div_iff_mul_le hpow).2 (by rw [← pow_add]; exact hk1))
        (div_le_roundHalfEven n _)
    have hhi : roundHalfEven n (2 ^ s) ≤ 2 ^ 53 := by
      have : roundHalfEven n (2 ^ s) * 2 ^ s < (2 ^ 53 + 1) * 2 ^ s := by
        rw [add_mul, one_mul, ← pow_add]
        omega
      exact Nat.lt_succ_iff.1 (Nat.lt_of_mul_lt_mul_right this)
    have hj : roundHalfEven n (2 ^ s) * 2 ^ s ≤ 2 ^ 63 := by
      have h63 : 2 ^ 63 = 2 ^ (63 - s) * 2 ^ s := by rw [← pow_add]; congr 1; omega
      have : roundHalfEven n (2 ^ s) * 2 ^ s < (2 ^ (63 - s) + 1) * 2 ^ s := by
        rw [add_mul, one_mul, ← h63]
        omega
      rw [h63]
      exact Nat.mul_le_mul_right _ (Nat.lt_succ_iff.1 (Nat.lt_of_mul_lt_mul_right this))
    have hval : ((roundHalfEven n (2 ^ s) * 2 ^ s : ℕ) : ℚ) =
        roundHalfEven n (2 ^ s) * 2 ^ ((n.log2 : Int) - 52) := by
      rw [show (n.log2 : Int) - 52 = (s : Int) by omega, zpow_natCast]
      push_cast
      ring
    rcases Nat.lt_or_eq_of_le hhi with hlt | heq
    · rw [carry_of_lt hlt (by omega)]
      exact ⟨_, _, rfl, ⟨by omega, by omega, hlt, Or.inl hlo⟩, by omega, _, hval, hj⟩
    · rw [heq, carry_of_eq (by omega)]
      refine ⟨_, _, rfl, ⟨by omega, by omega, by norm_num, Or.inl le_rfl⟩, by positivity, _, ?_, hj⟩
      rw [hval, heq, zpow_add_one₀ two_ne_zero]
      push_cast
      ring

end Phrasebook.Decimal
