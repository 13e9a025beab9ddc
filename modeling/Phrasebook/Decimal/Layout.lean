import Phrasebook.Decimal.Shortest

/-!
# Writing doubles as text

A `Layout` fixes how shortest digits are laid out: between which positions of the decimal point
the digits are written positionally, how many fraction digits are always shown, and the words
for the values that have no digits. Two layouts are used: `Layout.plain`, always positional with
no forced fraction (`1e21` is `1000000000000000000000`, `-0.0` is `-0`), and `Layout.exact`,
which keeps a fraction digit (`1.0`) and switches to scientific form below `1e-4` and from
`1e16` on (`1e-7`, `9.223372036854776e18`).

`fixed` writes a double with a given number of fraction digits: the exact binary value is
rounded once, a tie going to the even digit.
-/

namespace Phrasebook.Decimal

/-- how a double is laid out as text. The decimal point position of `0.d₁d₂… · 10^k` is `k`. -/
structure Layout where
  /-- positions at or above which scientific form is used -/
  scientificFrom : Option Int
  /-- positions at or below which a non-zero value uses scientific form -/
  scientificUpTo : Option Int
  /-- fraction digits always shown in positional form -/
  minFraction : Nat
  nanText : String
  infinityText : String
  /-- whether a positive exponent is written with `+` -/
  signedExponent : Bool

/-- positional always, no forced fraction digit -/
def Layout.plain : Layout := ⟨none, none, 0, "NaN", "inf", false⟩

/-- scientific below `1e-4` and from `1e16`, one fraction digit at least -/
def Layout.exact : Layout := ⟨some 17, some (-4), 1, "NaN", "inf", false⟩

def zeros (n : Nat) : String := String.ofList (List.replicate n '0')

def Decimal.positional (d : Decimal) (minFraction : Nat) : String :=
  let ds := toString d.digits
  let n := ds.length
  let point : Int := n + d.exponent
  let (whole, frac) :=
    if d.exponent ≥ 0 then (ds ++ zeros d.exponent.toNat, "")
    else if point > 0 then
      (String.ofList (ds.toList.take point.toNat), String.ofList (ds.toList.drop point.toNat))
    else ("0", zeros (-point).toNat ++ ds)
  let frac := frac ++ zeros (minFraction - frac.length)
  if frac.isEmpty then whole else whole ++ "." ++ frac

def Decimal.scientific (d : Decimal) (signed : Bool) : String :=
  let ds := (toString d.digits).toList
  let point : Int := ds.length + d.exponent
  let mantissa := match ds with
    | [] => "0"
    | [c] => String.singleton c
    | c :: rest => String.singleton c ++ "." ++ String.ofList rest
  let sign := if signed && point - 1 ≥ 0 then "+" else ""
  mantissa ++ "e" ++ sign ++ toString (point - 1)

def Layout.isScientific (layout : Layout) (d : Decimal) : Bool :=
  if d.digits = 0 then false
  else
    let point : Int := (toString d.digits).length + d.exponent
    (match layout.scientificFrom with | some k => decide (point ≥ k) | none => false) ||
    (match layout.scientificUpTo with | some k => decide (point ≤ k) | none => false)

def Layout.write (layout : Layout) (x : Float) : String :=
  match DoubleKind.of x with
  | .nan => layout.nanText
  | .infinity negative => (if negative then "-" else "") ++ layout.infinityText
  | .finite v =>
    let d := v.shortest
    let body :=
      if layout.isScientific d then d.scientific layout.signedExponent
      else d.positional layout.minFraction
    (if v.negative then "-" else "") ++ body

def Dyadic.scaledRound (v : Dyadic) (places : Nat) : Nat :=
  roundHalfEven (v.significand * Nat.pow 2 v.exponent.toNat * Nat.pow 10 places) (Nat.pow 2 (-v.exponent).toNat)

/-- `x` with exactly `places` fraction digits, rounded once from its exact value -/
def fixed (x : Float) (places : Nat) : String :=
  match DoubleKind.of x with
  | .nan => "NaN"
  | .infinity negative => if negative then "-inf" else "inf"
  | .finite v =>
    let ds := (toString (v.scaledRound places)).toList
    let ds := List.replicate (places + 1 - ds.length) '0' ++ ds
    let whole := String.ofList (ds.take (ds.length - places))
    let body :=
      if places = 0 then whole else whole ++ "." ++ String.ofList (ds.drop (ds.length - places))
    (if v.negative then "-" else "") ++ body

def display (x : Float) : String := Layout.plain.write x

def exactText (x : Float) : String := Layout.exact.write x

end Phrasebook.Decimal
