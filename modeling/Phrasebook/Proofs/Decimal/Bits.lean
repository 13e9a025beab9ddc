import Mathlib
import Phrasebook.Decimal.Binary

/-!
# Bit patterns of doubles

A `Float` is a 64-bit pattern in which `NaN` has one spelling. Its sign bit, eleven exponent bits
and fifty-two fraction bits are what `DoubleKind.ofBits` reads and what `doubleBits` and
`infinityBits` write.

* `ofBits_toBits`               every double is read back from its own bits;
* `kind_ofBits_fields`          what `DoubleKind.ofBits` makes of the three fields;
* `Stored m e`                  a significand and exponent as a double keeps them;
* `kind_ofBits_stored`          the double with the bits of a stored value has that value;
* `eq_ofBits_of_kind_finite`,
  `eq_ofBits_of_kind_infinity`,
  `eq_ofBits_of_kind_nan`       each double is the pattern that its kind describes.
-/

namespace Phrasebook.Decimal

open Float.Model UnpackedFloat

section Fields

theorem toNat_unpackSign (b : BitVec 64) :
    (@unpackSign Format.binary64 b).toNat = b.toNat / 2 ^ 63 := by
  change (b.toNat >>> 63) % 2 = _
  rw [Nat.shiftRight_eq_div_pow, Nat.mod_eq_of_lt (by omega)]

theorem toNat_unpackExponent (b : BitVec 64) :
    (@unpackExponent Format.binary64 b).toNat = b.toNat / 2 ^ 52 % 2 ^ 11 := by
  change (b.toNat >>> 52) % 2 ^ 11 = _
  rw [Nat.shiftRight_eq_div_pow]

theorem toNat_unpackMantissa (b : BitVec 64) :
    (@unpackMantissa Format.binary64 b).toNat = b.toNat % 2 ^ 52 := by
  change (b.toNat >>> 0) % 2 ^ 52 = _
  rw [Nat.shiftRight_zero]

theorem toNat_packComponents (s : Sign) (e : BitVec 11) (m : BitVec 52) :
    (packComponents Format.binary64 s e m).toNat =
      s.toBitVec.toNat * 2 ^ 63 + e.toNat * 2 ^ 52 + m.toNat := by
  unfold packComponents
  rw [BitVec.toNat_append, BitVec.toNat_append]
  simp only [Nat.shiftLeft_eq]
  have hs := s.toBitVec.isLt
  rw [Nat.mul_comm _ (2 ^ 11), ← Nat.two_pow_add_eq_or_of_lt e.isLt,
    Nat.mul_comm _ (2 ^ 52), ← Nat.two_pow_add_eq_or_of_lt m.isLt]
  omega

theorem toBitVec_ofBitVec (v : BitVec 1) : (Sign.ofBitVec v).toBitVec = v := by
  unfold Sign.ofBitVec
  split
  · next h => rw [h]; rfl
  · next h => show 1#1 = v; bv_omega

end Fields

theorem eq_packComponents (b : BitVec 64) :
    b = packComponents Format.binary64 (Sign.ofBitVec (@unpackSign Format.binary64 b))
      (@unpackExponent Format.binary64 b) (@unpackMantissa Format.binary64 b) := by
  apply BitVec.eq_of_toNat_eq
  rw [toNat_packComponents, toBitVec_ofBitVec, toNat_unpackSign, toNat_unpackExponent,
    toNat_unpackMantissa]
  have := b.isLt
  omega

theorem pack_finite_normal (s : Sign) (m : Nat) (e : Int) (h : 0 < m) (hlo : 2 ^ 52 ≤ m)
    (hhi : m < 2 ^ 53) (he : -1074 ≤ e) (he' : e ≤ 971) :
    UnpackedFloat.pack Format.binary64 (.finite s m e h) =
      packComponents Format.binary64 s (BitVec.ofNat 11 (e + 1075).toNat) (BitVec.ofNat 52 m) := by
  have hlog : m.log2 = 52 := by
    apply Nat.le_antisymm
    · exact Nat.lt_succ_iff.1 ((Nat.log2_lt (by omega)).2 hhi)
    · exact (Nat.le_log2 (by omega)).2 hlo
  simp only [UnpackedFloat.pack, hlog]
  have hbias : e + (Format.binary64.exponentBias : Int) + ((52 : Nat) : Int) = e + 1075 := by
    simp only [Format.exponentBias]; omega
  rw [if_neg (by simp [Format.exponentBias]; omega),
    if_pos (show 52 + 1 = Format.binary64.mantissaBits from rfl), hbias]

theorem pack_finite_subnormal (s : Sign) (m : Nat) (e : Int) (h : 0 < m) (hm : m < 2 ^ 52)
    (he : e = -1074) :
    UnpackedFloat.pack Format.binary64 (.finite s m e h) =
      packComponents Format.binary64 s 0#11 (BitVec.ofNat 52 m) := by
  have hlog : m.log2 < 52 := (Nat.log2_lt (by omega)).2 hm
  subst he
  simp only [UnpackedFloat.pack]
  rw [if_neg (by decide), if_neg (by simp [Format.mantissaBits]; omega)]

theorem pack_unpack (b : BitVec 64) (hb : Format.binary64.Valid b) :
    UnpackedFloat.pack Format.binary64 (UnpackedFloat.unpack Format.binary64 b) = b := by
  have hE := toNat_unpackExponent b
  have hM := toNat_unpackMantissa b
  unfold UnpackedFloat.unpack
  dsimp only
  split
  · next hinf =>
    split
    · next hzero =>
      conv => rhs; rw [eq_packComponents b]
      simp only [UnpackedFloat.pack, packedInfinity, hinf, hzero]
      rfl
    · next hnan => exact (hb.eq_packedNaN hinf hnan).symm
  · next hfin =>
    conv => rhs; rw [eq_packComponents b]
    split
    · next hsub =>
      split
      · next hzero =>
        simp only [UnpackedFloat.pack, packedZero, hsub, hzero]
        rfl
      · next hnz =>
        have hpos : 0 < (@unpackMantissa Format.binary64 b).toNat := by
          rw [Nat.pos_iff_ne_zero]; intro h0; exact hnz (BitVec.eq_of_toNat_eq h0)
        have hzero : (@unpackExponent Format.binary64 b).toNat = 0 := by rw [hsub]; rfl
        rw [pack_finite_subnormal _ _ _ hpos (@unpackMantissa Format.binary64 b).isLt
          (by simp only [Format.exponentBias, hzero]; omega)]
        congr 1
        · exact hsub.symm
        · exact BitVec.eq_of_toNat_eq (Nat.mod_eq_of_lt (@unpackMantissa Format.binary64 b).isLt)
    · next hnorm =>
      have hmant : (1#1 ++ @unpackMantissa Format.binary64 b).toNat = 2 ^ 52 + (@unpackMantissa Format.binary64 b).toNat := by
        change 2 ^ 52 ||| (@unpackMantissa Format.binary64 b).toNat = _
        rw [Nat.or_comm, Nat.or_two_pow_eq_add_of_lt (@unpackMantissa Format.binary64 b).isLt, Nat.add_comm]
      have hlo : 0 < (@unpackExponent Format.binary64 b).toNat := by
        rw [Nat.pos_iff_ne_zero]; intro h0; exact hnorm (BitVec.eq_of_toNat_eq h0)
      have hhi : (@unpackExponent Format.binary64 b).toNat < 2047 := by
        have h1 := (@unpackExponent Format.binary64 b).isLt
        have h2 : (@unpackExponent Format.binary64 b).toNat ≠ 2047 := fun h0 => hfin (BitVec.eq_of_toNat_eq h0)
        omega
      have hm := (@unpackMantissa Format.binary64 b).isLt
      rw [pack_finite_normal _ _ _ _ (by omega) (by omega) (by simp [Format.exponentBias]; omega)
        (by simp [Format.exponentBias]; omega)]
      congr 1
      · apply BitVec.eq_of_toNat_eq
        simp only [Format.exponentBias, BitVec.toNat_ofNat]
        omega
      · apply BitVec.eq_of_toNat_eq
        rw [BitVec.toNat_ofNat, hmant]
        omega

theorem toBits_ofBits (b : UInt64) (hb : Format.binary64.Valid b.toBitVec) :
    (Float.ofBits b).toBits = b := by
  show UInt64.ofBitVec (UnpackedFloat.pack Format.binary64 (UnpackedFloat.unpack Format.binary64 b.toBitVec)) = b
  rw [pack_unpack _ hb]

theorem eq_of_toBits_eq {x y : Float} (h : x.toBits = y.toBits) : x = y := by
  obtain ⟨⟨a, ha⟩⟩ := x
  obtain ⟨⟨b, hb⟩⟩ := y
  change a = b at h
  subst h
  rfl

/-- every double is read back from its own bits -/
theorem ofBits_toBits (x : Float) : Float.ofBits x.toBits = x :=
  eq_of_toBits_eq (toBits_ofBits x.toBits x.toModel.valid)

theorem valid_of_exponent_ne (b : BitVec 64) (h : b.toNat / 2 ^ 52 % 2 ^ 11 ≠ 2 ^ 11 - 1) :
    Format.binary64.Valid b := by
  refine ⟨fun hE _ => absurd ?_ h⟩
  rw [← toNat_unpackExponent, hE]
  rfl

/-- `DoubleKind.ofBits` on a pattern given by its sign bit, exponent field and fraction field -/
theorem kind_ofBits_fields (s E F : Nat) (hs : s < 2) (hE : E < 2 ^ 11) (hF : F < 2 ^ 52) :
    DoubleKind.ofBits (s * 2 ^ 63 + E * 2 ^ 52 + F) =
      if E = 2 ^ 11 - 1 then (if F = 0 then .infinity (s == 1) else .nan)
      else if E = 0 then .finite ⟨s == 1, F, -1074⟩
      else .finite ⟨s == 1, F + 2 ^ 52, (E : Int) - 1075⟩ := by
  have h1 : (s * 2 ^ 63 + E * 2 ^ 52 + F) / 2 ^ 63 % 2 = s := by omega
  have h2 : (s * 2 ^ 63 + E * 2 ^ 52 + F) / 2 ^ 52 % 2 ^ 11 = E := by omega
  have h3 : (s * 2 ^ 63 + E * 2 ^ 52 + F) % 2 ^ 52 = F := by omega
  simp only [DoubleKind.ofBits, Nat.pow_eq, h1, h2, h3, beq_iff_eq]

theorem toBits_split (x : Float) : ∃ s E F, s < 2 ∧ E < 2 ^ 11 ∧ F < 2 ^ 52 ∧
    x.toBits.toNat = s * 2 ^ 63 + E * 2 ^ 52 + F := by
  have := x.toBits.toNat_lt
  exact ⟨x.toBits.toNat / 2 ^ 63, x.toBits.toNat / 2 ^ 52 % 2 ^ 11, x.toBits.toNat % 2 ^ 52,
    by omega, by omega, by omega, by omega⟩

/-- a significand and an exponent as a double keeps them: the exponent in range, a significand
of at most 53 bits, and of exactly 53 bits unless the exponent is the least one -/
def Stored (m : Nat) (e : Int) : Prop :=
  -1074 ≤ e ∧ e ≤ 971 ∧ m < 2 ^ 53 ∧ (2 ^ 52 ≤ m ∨ e = -1074)

theorem doubleBits_fields {m : Nat} {e : Int} (hs : Stored m e) (negative : Bool) :
    doubleBits negative m e = (if negative then 1 else 0) * 2 ^ 63 +
      (if m < 2 ^ 52 then 0 else (e + 1075).toNat) * 2 ^ 52 + m % 2 ^ 52 := by
  obtain ⟨he, he', hm, -⟩ := hs
  unfold doubleBits
  simp only [Nat.pow_eq]
  split_ifs <;> omega

theorem kind_ofBits_doubleBits {m : Nat} {e : Int} (hs : Stored m e) (negative : Bool) :
    DoubleKind.ofBits (doubleBits negative m e) = .finite ⟨negative, m, e⟩ := by
  obtain ⟨he, he', hm, hnorm⟩ := hs
  rw [doubleBits_fields ⟨he, he', hm, hnorm⟩, kind_ofBits_fields _ _ _ (by split <;> omega)
    (by split <;> omega) (by omega)]
  have hsign : ((if negative then 1 else 0) == 1) = negative := by cases negative <;> rfl
  by_cases hsub : m < 2 ^ 52
  · have he0 : e = -1074 := by omega
    rw [if_pos hsub, if_neg (by decide), if_pos rfl, hsign, Nat.mod_eq_of_lt hsub, he0]
  · have h1 : (e + 1075).toNat ≠ 2 ^ 11 - 1 := by omega
    have h2 : (e + 1075).toNat ≠ 0 := by omega
    rw [if_neg hsub, if_neg h1, if_neg h2, hsign]
    simp only [DoubleKind.finite.injEq, Dyadic.mk.injEq, true_and]
    omega

theorem doubleBits_lt {m : Nat} {e : Int} (hs : Stored m e) (negative : Bool) :
    doubleBits negative m e < 2 ^ 64 := by
  obtain ⟨he, he', hm, hnorm⟩ := hs
  rw [doubleBits_fields ⟨he, he', hm, hnorm⟩]
  split_ifs <;> omega

/-- the double with the bits of a stored value has that value -/
theorem kind_ofBits_stored {m : Nat} {e : Int} (hs : Stored m e) (negative : Bool) :
    DoubleKind.of (Float.ofBits (UInt64.ofNat (doubleBits negative m e))) =
      .finite ⟨negative, m, e⟩ := by
  have hnat : (UInt64.ofNat (doubleBits negative m e)).toNat = doubleBits negative m e :=
    Nat.mod_eq_of_lt (doubleBits_lt hs negative)
  have hfield : doubleBits negative m e / 2 ^ 52 % 2 ^ 11 ≠ 2 ^ 11 - 1 := by
    obtain ⟨he, he', hm, hnorm⟩ := hs
    rw [doubleBits_fields ⟨he, he', hm, hnorm⟩]
    split_ifs <;> omega
  have hvalid : Format.binary64.Valid (UInt64.ofNat (doubleBits negative m e)).toBitVec :=
    valid_of_exponent_ne _ (by rwa [UInt64.toNat_toBitVec, hnat])
  unfold DoubleKind.of
  rw [toBits_ofBits _ hvalid, hnat, kind_ofBits_doubleBits hs]

/-- a finite double is the double with the bits of its value, and that value is stored -/
theorem eq_ofBits_of_kind_finite {x : Float} {negative : Bool} {m : Nat} {e : Int}
    (h : DoubleKind.of x = .finite ⟨negative, m, e⟩) :
    Stored m e ∧ x = Float.ofBits (UInt64.ofNat (doubleBits negative m e)) := by
  obtain ⟨s, E, F, hs, hE, hF, hx⟩ := toBits_split x
  unfold DoubleKind.of at h
  rw [hx, kind_ofBits_fields s E F hs hE hF] at h
  have hsign : (if (s == 1) = true then 1 else 0) = s := by
    rcases (by omega : s = 0 ∨ s = 1) with rfl | rfl <;> rfl
  have hstored : Stored m e ∧ x.toBits.toNat = doubleBits negative m e := by
    by_cases h1 : E = 2 ^ 11 - 1
    · rw [if_pos h1] at h
      split at h <;> cases h
    rw [if_neg h1] at h
    by_cases h3 : E = 0
    · rw [if_pos h3] at h
      simp only [DoubleKind.finite.injEq, Dyadic.mk.injEq] at h
      obtain ⟨hneg, hm, he⟩ := h
      subst hneg hm he
      have hst : Stored F (-1074) := ⟨by omega, by omega, by omega, Or.inr rfl⟩
      refine ⟨hst, ?_⟩
      rw [doubleBits_fields hst, hsign, hx, if_pos hF, Nat.mod_eq_of_lt hF, h3]
    · rw [if_neg h3] at h
      simp only [DoubleKind.finite.injEq, Dyadic.mk.injEq] at h
      obtain ⟨hneg, hm, he⟩ := h
      subst hneg hm he
      have hst : Stored (F + 2 ^ 52) ((E : Int) - 1075) :=
        ⟨by omega, by omega, by omega, Or.inl (by omega)⟩
      refine ⟨hst, ?_⟩
      rw [doubleBits_fields hst, hsign, hx, if_neg (by omega)]
      omega
  refine ⟨hstored.1, ?_⟩
  rw [← hstored.2, UInt64.ofNat_toNat, ofBits_toBits]

/-- an infinite double is the double with the bits of that infinity -/
theorem eq_ofBits_of_kind_infinity {x : Float} {negative : Bool}
    (h : DoubleKind.of x = .infinity negative) :
    x = Float.ofBits (UInt64.ofNat (infinityBits negative)) := by
  obtain ⟨s, E, F, hs, hE, hF, hx⟩ := toBits_split x
  unfold DoubleKind.of at h
  rw [hx, kind_ofBits_fields s E F hs hE hF] at h
  by_cases h1 : E = 2 ^ 11 - 1
  · by_cases h2 : F = 0
    · rw [if_pos h1, if_pos h2, DoubleKind.infinity.injEq] at h
      subst h
      have hbits : x.toBits.toNat = infinityBits (s == 1) := by
        unfold infinityBits
        rcases (by omega : s = 0 ∨ s = 1) with rfl | rfl <;>
          simp only [Nat.pow_eq, hx, h1, h2] <;> rfl
      rw [← hbits, UInt64.ofNat_toNat, ofBits_toBits]
    · rw [if_pos h1, if_neg h2] at h
      cases h
  · rw [if_neg h1] at h
    split at h <;> cases h

/-- a `NaN` is the one `NaN` double -/
theorem eq_ofBits_of_kind_nan {x : Float} (h : DoubleKind.of x = .nan) :
    x = Float.ofBits 0x7FF8000000000000 := by
  obtain ⟨s, E, F, hs, hE, hF, hx⟩ := toBits_split x
  unfold DoubleKind.of at h
  rw [hx, kind_ofBits_fields s E F hs hE hF] at h
  have hfields : E = 2 ^ 11 - 1 ∧ F ≠ 0 := by
    by_cases h1 : E = 2 ^ 11 - 1
    · by_cases h2 : F = 0
      · rw [if_pos h1, if_pos h2] at h
        cases h
      · exact ⟨h1, h2⟩
    · rw [if_neg h1] at h
      split at h <;> cases h
  have hexp : @unpackExponent Format.binary64 x.toBits.toBitVec = -1#11 := by
    apply BitVec.eq_of_toNat_eq
    rw [toNat_unpackExponent, UInt64.toNat_toBitVec, hx]
    show _ = 2047
    omega
  have hman : @unpackMantissa Format.binary64 x.toBits.toBitVec ≠ 0#52 := by
    intro h0
    have h0' := congrArg BitVec.toNat h0
    rw [toNat_unpackMantissa, UInt64.toNat_toBitVec, hx, BitVec.toNat_zero] at h0'
    exact hfields.2 (by omega)
  have hnan := x.toModel.valid.eq_packedNaN hexp hman
  rw [← ofBits_toBits x]
  congr 1
  exact UInt64.toBitVec_inj.mp hnan

end Phrasebook.Decimal
