/-!
# Binary floating point values

A double is read off its bit pattern: one sign bit, eleven exponent bits and fifty-two fraction
bits. A finite double is `±significand · 2^exponent` with an integer significand, so every
question about its decimal digits is a question about natural numbers.

`doubleOfRatio` goes the other way: it rounds `±n / d` to the nearest value of a binary format
with a given precision, ties to the even significand, and writes the result as a double.
-/

namespace Phrasebook.Decimal

/-- a finite binary value `(-1)^negative · significand · 2^exponent` -/
structure Dyadic where
  negative : Bool
  significand : Nat
  exponent : Int
  deriving Repr, DecidableEq

/-- what a double holds -/
inductive DoubleKind where
  | nan
  | infinity (negative : Bool)
  | finite (d : Dyadic)
  deriving Repr, DecidableEq

def fractionBits : Nat := 52

def DoubleKind.ofBits (bits : Nat) : DoubleKind :=
  let negative : Bool := bits / Nat.pow 2 63 % 2 == 1
  let biased : Nat := bits / Nat.pow 2 52 % Nat.pow 2 11
  let fraction : Nat := bits % Nat.pow 2 52
  if biased == Nat.pow 2 11 - 1 then
    if fraction == 0 then .infinity negative else .nan
  else if biased == 0 then
    .finite ⟨negative, fraction, -1074⟩
  else
    .finite ⟨negative, fraction + Nat.pow 2 52, (biased : Int) - 1075⟩

def DoubleKind.of (x : Float) : DoubleKind :=
  DoubleKind.ofBits x.toBits.toNat

def Dyadic.closerBelow (d : Dyadic) : Bool :=
  d.significand == Nat.pow 2 52 && d.exponent > -1074

/-- a binary format: precision in bits, least exponent of the last significand bit, and the
largest such exponent for finite values -/
structure Format where
  precision : Nat
  minExponent : Int
  maxExponent : Int

def Format.double : Format := ⟨53, -1074, 971⟩

def Format.single : Format := ⟨24, -149, 104⟩

def roundHalfEven (n d : Nat) : Nat :=
  let q := n / d
  let r := n % d
  if 2 * r > d then q + 1
  else if 2 * r == d then (if q % 2 == 1 then q + 1 else q)
  else q

def floorLog2Ratio (n d : Nat) : Int :=
  let e : Int := (Nat.log2 n : Int) - (Nat.log2 d : Int)
  let below : Bool :=
    if e ≥ 0 then n < d * Nat.pow 2 e.toNat else n * Nat.pow 2 (-e).toNat < d
  if below then e - 1 else e

def roundToFormat (fmt : Format) (n d : Nat) : Option (Nat × Int) :=
  let lg := floorLog2Ratio n d
  let e := max (lg - (fmt.precision - 1 : Nat)) fmt.minExponent
  let m :=
    if e ≥ 0 then roundHalfEven n (d * Nat.pow 2 e.toNat)
    else roundHalfEven (n * Nat.pow 2 (-e).toNat) d
  let (m, e) := if m == Nat.pow 2 fmt.precision then (m / 2, e + 1) else (m, e)
  if e > fmt.maxExponent then none else some (m, e)

def doubleBits (negative : Bool) (m : Nat) (e : Int) : Nat :=
  let sign := if negative then Nat.pow 2 63 else 0
  if m < Nat.pow 2 52 then sign + m
  else sign + (e + 1075).toNat * Nat.pow 2 52 + (m - Nat.pow 2 52)

def infinityBits (negative : Bool) : Nat :=
  (if negative then Nat.pow 2 63 else 0) + (Nat.pow 2 11 - 1) * Nat.pow 2 52

def doubleOfRatio (negative : Bool) (n d : Nat) : Float :=
  if n == 0 || d == 0 then Float.ofBits (UInt64.ofNat (doubleBits negative 0 0))
  else
    match roundToFormat Format.double n d with
    | none => Float.ofBits (UInt64.ofNat (infinityBits negative))
    | some (m, e) => Float.ofBits (UInt64.ofNat (doubleBits negative m e))

def doubleOfDyadic (negative : Bool) (m : Nat) (e : Int) : Float :=
  if e ≥ 0 then doubleOfRatio negative (m * Nat.pow 2 e.toNat) 1
  else doubleOfRatio negative m (Nat.pow 2 (-e).toNat)

def singleOfRatio (negative : Bool) (n d : Nat) : Float :=
  if n == 0 || d == 0 then doubleOfRatio negative 0 1
  else
    match roundToFormat Format.single n d with
    | none => Float.ofBits (UInt64.ofNat (infinityBits negative))
    | some (m, e) => doubleOfDyadic negative m e

theorem roundHalfEven_exact (n d : Nat) (hd : 0 < d) : roundHalfEven (n * d) d = n := by
  simp [roundHalfEven, Nat.mul_div_cancel _ hd, Nat.mul_mod_left]
  omega

end Phrasebook.Decimal
