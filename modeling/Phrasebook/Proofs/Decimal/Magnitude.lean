import Phrasebook.Proofs.Decimal.Bits

/-!
# Equal doubles and the magnitude of a double

Two doubles compare equal when neither is `NaN` and they are the same value, the two zeros being
one value; so comparing for equality is symmetric and transitive. The magnitude of a double has
its bits with the sign bit cleared, and so its kind is the double's kind without a sign; a double
is finite exactly when its exponent field is not all ones, which is when its kind is finite.

* `float_beq_iff`                 what `==` on doubles compares;
* `float_beq_symm`, `float_beq_trans`;
* `kind_abs`                      the kind of `x.abs`;
* `isFinite_iff_kind`             `isFinite` is a finite kind;
* `isNaN_isInf_of_isFinite`       a finite double is neither `NaN` nor infinite.
-/

namespace Phrasebook.Decimal

open Float.Model UnpackedFloat

/-! ## Equality -/

def zeroUnsigned : UnpackedFloat → UnpackedFloat
  | .zero _ => .zero .positive
  | f => f

theorem zeroUnsigned_ne_nan {a : UnpackedFloat} (h : a ≠ .notANumber) :
    zeroUnsigned a ≠ .notANumber := by
  cases a <;> simp_all [zeroUnsigned]

theorem compare_sign_eq_iff (s t : Sign) : compare s t = .eq ↔ s = t := by
  cases s <;> cases t <;> simp [compare]

theorem unpacked_beq_iff (a b : UnpackedFloat) :
    a.beq b = true ↔ a ≠ .notANumber ∧ zeroUnsigned a = zeroUnsigned b := by
  rcases a with s | _ | s | ⟨s, m, e, hm⟩ <;> rcases b with t | _ | t | ⟨t, n, f, hn⟩ <;>
    (try cases s) <;> (try cases t) <;>
    simp [UnpackedFloat.beq, UnpackedFloat.compare, zeroUnsigned, Ordering.then_eq_eq,
      compare_sign_eq_iff, and_comm]

/-- doubles compare equal exactly when neither is `NaN` and they agree up to the sign of zero -/
theorem float_beq_iff (x y : Float) : (x == y) = true ↔
    x.toModel.unpack ≠ .notANumber ∧
      zeroUnsigned x.toModel.unpack = zeroUnsigned y.toModel.unpack :=
  unpacked_beq_iff _ _

theorem float_beq_symm {x y : Float} (h : (x == y) = true) : (y == x) = true := by
  obtain ⟨hnan, heq⟩ := (float_beq_iff x y).1 h
  refine (float_beq_iff y x).2 ⟨fun hy => zeroUnsigned_ne_nan hnan ?_, heq.symm⟩
  rw [heq, hy]
  rfl

theorem float_beq_trans {x y z : Float} (h₁ : (x == y) = true) (h₂ : (y == z) = true) :
    (x == z) = true := by
  obtain ⟨hnan, heq⟩ := (float_beq_iff x y).1 h₁
  exact (float_beq_iff x z).2 ⟨hnan, heq.trans ((float_beq_iff y z).1 h₂).2⟩

/-! ## Magnitude -/

theorem pack_abs (f : UnpackedFloat) :
    UnpackedFloat.pack Format.binary64 f.abs = packComponents Format.binary64 .positive
      (unpackExponent (UnpackedFloat.pack Format.binary64 f))
      (unpackMantissa (UnpackedFloat.pack Format.binary64 f)) := by
  cases f with
  | notANumber => rfl
  | infinity s =>
    simp only [UnpackedFloat.abs, UnpackedFloat.pack, packedInfinity,
      unpackExponent_packComponents, unpackMantissa_packComponents]
  | zero s =>
    simp only [UnpackedFloat.abs, UnpackedFloat.pack, packedZero, unpackExponent_packComponents,
      unpackMantissa_packComponents]
  | finite s m e hm =>
    simp only [UnpackedFloat.abs, UnpackedFloat.pack]
    split_ifs <;> simp only [packedInfinity, unpackExponent_packComponents,
      unpackMantissa_packComponents]

theorem toBits_abs (x : Float) : x.abs.toBits.toNat = x.toBits.toNat % 2 ^ 63 := by
  have hb := pack_unpack x.toBits.toBitVec x.toModel.valid
  change (UnpackedFloat.pack Format.binary64 (unpack Format.binary64 x.toBits.toBitVec).abs).toNat = _
  rw [pack_abs, hb, toNat_packComponents, toNat_unpackExponent, toNat_unpackMantissa]
  have hlt := x.toBits.toNat_lt
  have hpos : (Sign.positive).toBitVec.toNat = 0 := rfl
  rw [hpos]
  simp only [UInt64.toNat_toBitVec]
  omega

def DoubleKind.magnitude : DoubleKind → DoubleKind
  | .nan => .nan
  | .infinity _ => .infinity false
  | .finite d => .finite { d with negative := false }

/-- the magnitude of a double is of the double's kind, with no sign -/
theorem kind_abs (x : Float) : DoubleKind.of x.abs = (DoubleKind.of x).magnitude := by
  obtain ⟨s, E, F, hs, hE, hF, hx⟩ := toBits_split x
  have habs : x.abs.toBits.toNat = 0 * 2 ^ 63 + E * 2 ^ 52 + F := by
    rw [toBits_abs, hx]
    omega
  unfold DoubleKind.of
  rw [habs, hx, kind_ofBits_fields 0 E F (by omega) hE hF, kind_ofBits_fields s E F hs hE hF]
  split_ifs <;> rfl

/-! ## Finiteness -/

theorem isFinite_iff_exponent (x : Float) :
    x.isFinite = true ↔ x.toBits.toNat / 2 ^ 52 % 2 ^ 11 ≠ 2 ^ 11 - 1 := by
  have hE := toNat_unpackExponent x.toBits.toBitVec
  change (unpack Format.binary64 x.toBits.toBitVec).isFinite = true ↔ _
  unfold UnpackedFloat.unpack
  dsimp only
  split
  · next h =>
    rw [h] at hE
    split <;> simp_all [UnpackedFloat.isFinite]
  · next h =>
    have hne : x.toBits.toNat / 2 ^ 52 % 2 ^ 11 ≠ 2 ^ 11 - 1 :=
      fun h' => h (BitVec.eq_of_toNat_eq (hE.trans h'))
    refine iff_of_true ?_ hne
    split
    · split <;> rfl
    · rfl

theorem kind_finite_iff_exponent (x : Float) :
    (∃ d, DoubleKind.of x = .finite d) ↔ x.toBits.toNat / 2 ^ 52 % 2 ^ 11 ≠ 2 ^ 11 - 1 := by
  obtain ⟨s, E, F, hs, hE, hF, hx⟩ := toBits_split x
  have hfield : x.toBits.toNat / 2 ^ 52 % 2 ^ 11 = E := by omega
  unfold DoubleKind.of
  rw [hfield, hx, kind_ofBits_fields s E F hs hE hF]
  split_ifs <;> simp_all

/-- a double is finite exactly when its kind is -/
theorem isFinite_iff_kind (x : Float) : x.isFinite = true ↔ ∃ d, DoubleKind.of x = .finite d :=
  (isFinite_iff_exponent x).trans (kind_finite_iff_exponent x).symm

/-- a finite double passes both guards that catch the values without digits -/
theorem isNaN_isInf_of_isFinite {x : Float} (h : x.isFinite = true) :
    x.isNaN = false ∧ x.isInf = false := by
  change x.toModel.unpack.isFinite = true at h
  change x.toModel.unpack.isNaN = false ∧ x.toModel.unpack.isInf = false
  generalize x.toModel.unpack = u at h ⊢
  cases u <;> simp_all [UnpackedFloat.isFinite, UnpackedFloat.isNaN, UnpackedFloat.isInf]

end Phrasebook.Decimal
