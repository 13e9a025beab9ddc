import Phrasebook.Decimal.Binary

/-!
# Shortest decimal digits

The shortest decimal that reads back as a given double. The reals that round to a double `v`
form an interval around it, bounded by the midpoints to its two neighbours and closed exactly
when the significand is even (a tie reads as the even significand). For `n = 1, 2, …, 17`
digits the two points of the decimal grid next to `v` are tested against the interval, in exact
natural-number arithmetic; the first grid with a point inside wins, and of two points inside the
nearer one (the upper one at equal distance).

The main definition is `shortest`; `Decimal` is the digits-and-exponent form it produces.
-/

namespace Phrasebook.Decimal

/-- a non-negative decimal `digits · 10^exponent` -/
structure Decimal where
  digits : Nat
  exponent : Int
  deriving Repr, DecidableEq

def compareScaled (a : Nat) (e : Int) (b : Nat) (p : Int) : Ordering :=
  compare (a * Nat.pow 10 e.toNat * Nat.pow 2 (-p).toNat) (b * Nat.pow 2 p.toNat * Nat.pow 10 (-e).toNat)

def Decimal.normalize (d : Decimal) : Decimal :=
  if d.digits = 0 then ⟨0, 0⟩ else go d.digits d.exponent d.digits
where
  go (m : Nat) (e : Int) : Nat → Decimal
    | 0 => ⟨m, e⟩
    | fuel + 1 => if m % 10 = 0 ∧ m ≠ 0 then go (m / 10) (e + 1) fuel else ⟨m, e⟩

def decimalPosition (n : Nat) (p : Int) : Int :=
  let bits : Int := (Nat.log2 n : Int) + 1 + p
  let guess : Int := (bits * 30103) / 100000
  up (down guess 8) 8
where
  /-- lowers `k` while `10^(k-1)` still exceeds the value -/
  down (k : Int) : Nat → Int
    | 0 => k
    | fuel + 1 => if compareScaled 1 (k - 1) n p == .gt then down (k - 1) fuel else k
  /-- raises `k` while `10^k` does not yet exceed the value -/
  up (k : Int) : Nat → Int
    | 0 => k
    | fuel + 1 => if compareScaled 1 k n p == .gt then k else up (k + 1) fuel

def inInterval (c : Nat) (e : Int) (lo hi : Nat) (p : Int) (closed : Bool) : Bool :=
  let aboveLo := match compareScaled c e lo p with
    | .gt => true
    | .eq => closed
    | .lt => false
  let belowHi := match compareScaled c e hi p with
    | .lt => true
    | .eq => closed
    | .gt => false
  aboveLo && belowHi

def gridHit (v lo hi : Nat) (p : Int) (closed : Bool) (k : Int) (n : Nat) : Option Decimal :=
  let e := k - n
  let num := v * Nat.pow 2 p.toNat * Nat.pow 10 (-e).toNat
  let den := Nat.pow 2 (-p).toNat * Nat.pow 10 e.toNat
  let low := num / den
  let lowIn := inInterval low e lo hi p closed
  let highIn := num % den != 0 && inInterval (low + 1) e lo hi p closed
  if lowIn && highIn then
    if num - low * den < (low + 1) * den - num then some ⟨low, e⟩ else some ⟨low + 1, e⟩
  else if lowIn then some ⟨low, e⟩
  else if highIn then some ⟨low + 1, e⟩
  else none

def firstHit (v lo hi : Nat) (p : Int) (closed : Bool) (k : Int) (n : Nat) : Nat → Decimal
  | 0 => ⟨v, p⟩
  | fuel + 1 =>
    match gridHit v lo hi p closed k n with
    | some d => d
    | none => firstHit v lo hi p closed k (n + 1) fuel

/-- the shortest decimal that reads back as the double `m · 2^q`. `closerBelow` says that the
lower neighbour is half as far as the upper one. -/
def shortest (m : Nat) (q : Int) (closerBelow : Bool) : Decimal :=
  if m = 0 then ⟨0, 0⟩
  else
    let p := q - 2
    let v := 4 * m
    let hi := 4 * m + 2
    let lo := if closerBelow then 4 * m - 1 else 4 * m - 2
    let k := decimalPosition v p
    (firstHit v lo hi p (m % 2 == 0) k 1 17).normalize

/-- the shortest decimal of a finite double, without its sign -/
def Dyadic.shortest (d : Dyadic) : Decimal :=
  Decimal.shortest d.significand d.exponent d.closerBelow

end Phrasebook.Decimal
