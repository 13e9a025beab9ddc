import Phrasebook.Decimal.Layout

/-!
# Plural operands

The operands that plural rules test, read off the shortest decimal text of a number's absolute
value:

* `i`, the integer part (the value itself for whole numbers, at most `2^64 - 1`);
* `v` and `f`, the count and the value of the fraction digits as written;
* `w` and `t`, the same without trailing zeros.

A whole number is written without fraction digits, so `v = 0` exactly for whole numbers.
-/

namespace Phrasebook.Plural

/-- the operands of a non-negative number -/
structure Operands where
  i : Nat
  v : Nat
  w : Nat
  f : Nat
  t : Nat
  deriving Repr, DecidableEq

def digitsValue (cs : List Char) : Nat :=
  cs.foldl (fun acc c => acc * 10 + (c.toNat - '0'.toNat)) 0

def integerLimit : Nat := Nat.pow 2 64 - 1

def Operands.ofDyadic (d : Decimal.Dyadic) : Operands :=
  let text := (d.shortest.positional 0).toList
  match text.span (· != '.') with
  | (whole, '.' :: frac) =>
    let trimmed := (frac.reverse.dropWhile (· == '0')).reverse
    ⟨digitsValue whole, frac.length, trimmed.length, digitsValue frac, digitsValue trimmed⟩
  | _ =>
    let value := if d.exponent ≥ 0 then d.significand * Nat.pow 2 d.exponent.toNat
      else d.significand / Nat.pow 2 (-d.exponent).toNat
    ⟨min value integerLimit, 0, 0, 0, 0⟩

end Phrasebook.Plural
