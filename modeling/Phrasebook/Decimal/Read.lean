import Phrasebook.Decimal.Binary

/-!
# Reading decimal text

The grammar of a decimal number: an optional sign, then `inf`, `infinity` or `nan` in any mix
of cases, or digits with at most one point and at least one digit, followed by an optional
exponent `e` or `E` with an optional sign and at least one digit. Nothing else may follow, and
blanks are not skipped.

`Literal.toDouble` and `Literal.toSingle` round the exact value once to the nearest value of the
format, ties to even. Magnitudes far outside the format become infinity or zero without
computing the power of ten.
-/

namespace Phrasebook.Decimal

/-- a number as read from text. A finite one is `±digits · 10^exponent`. -/
inductive Literal where
  | nan
  | infinity (negative : Bool)
  | finite (negative : Bool) (digits : Nat) (exponent : Int)
  deriving Repr, DecidableEq

def readDigits : List Char → Nat → Nat → Nat × Nat × List Char
  | c :: cs, acc, n =>
    if c.isDigit then readDigits cs (acc * 10 + (c.toNat - '0'.toNat)) (n + 1) else (acc, n, c :: cs)
  | [], acc, n => (acc, n, [])

def asciiLower (c : Char) : Char := if c.isUpper then Char.ofNat (c.toNat + 32) else c

def readExponent : List Char → Option Int
  | [] => some 0
  | c :: cs =>
    if c = 'e' ∨ c = 'E' then
      let (negative, cs) := match cs with
        | '-' :: r => (true, r)
        | '+' :: r => (false, r)
        | r => (false, r)
      let (v, n, rest) := readDigits cs 0 0
      if n = 0 ∨ rest ≠ [] then none
      else some (if negative then -(v : Int) else v)
    else none

def readUnsigned (negative : Bool) (cs : List Char) : Option Literal :=
  let word := String.ofList (cs.map asciiLower)
  if word = "inf" ∨ word = "infinity" then some (.infinity negative)
  else if word = "nan" then some .nan
  else
    let (whole, wholeCount, rest) := readDigits cs 0 0
    let (frac, fracCount, rest) := match rest with
      | '.' :: r => readDigits r 0 0
      | r => (0, 0, r)
    if wholeCount + fracCount = 0 then none
    else
      match readExponent rest with
      | none => none
      | some e => some (.finite negative (whole * Nat.pow 10 fracCount + frac) (e - fracCount))

def Literal.read (s : String) : Option Literal :=
  match s.toList with
  | '-' :: cs => readUnsigned true cs
  | '+' :: cs => readUnsigned false cs
  | cs => readUnsigned false cs

def digitCount (n : Nat) : Nat := (toString n).length

def Literal.roundWith (round : Bool → Nat → Nat → Float) (high low : Int) : Literal → Float
  | .nan => Float.ofBits 0x7FF8000000000000
  | .infinity negative => Float.ofBits (UInt64.ofNat (infinityBits negative))
  | .finite negative digits exponent =>
    if digits = 0 then round negative 0 1
    else
      let magnitude : Int := digitCount digits + exponent
      if magnitude > high then Float.ofBits (UInt64.ofNat (infinityBits negative))
      else if magnitude < low then round negative 0 1
      else if exponent ≥ 0 then round negative (digits * Nat.pow 10 exponent.toNat) 1
      else round negative digits (Nat.pow 10 (-exponent).toNat)

/-- the double nearest to the literal -/
def Literal.toDouble (l : Literal) : Float := l.roundWith doubleOfRatio 310 (-326)

/-- the single nearest to the literal, widened to a double -/
def Literal.toSingle (l : Literal) : Float := l.roundWith singleOfRatio 40 (-47)

def readDouble (s : String) : Option Float := (Literal.read s).map Literal.toDouble

def readSingle (s : String) : Option Float := (Literal.read s).map Literal.toSingle

end Phrasebook.Decimal
