import Phrasebook.Decimal.Read

/-!
# JSON values

A JSON document as read: numbers keep the digits they were written with, and objects keep their
fields in the order written, repeats included. Lookups take the last field of a name, as a map
built from the fields in order would.

A number written without fraction or exponent is an integer when it fits 64 bits (unsigned, or
negative down to `-2^63`); every other number is a double. `-0` is the double minus zero.
-/

namespace Phrasebook.Json

/-- a number as written: `±mantissa · 10^exponent`, and whether it had neither fraction nor
exponent part -/
structure Number where
  negative : Bool
  mantissa : Nat
  exponent : Int
  integral : Bool
  deriving Repr, DecidableEq

/-- how a number is held once read -/
inductive NumberKind where
  | unsigned (n : Nat)
  | signed (i : Int)
  | double (x : Float)

def Number.kind (n : Number) : NumberKind :=
  if n.integral && n.exponent == 0 then
    if !n.negative && n.mantissa < Nat.pow 2 64 then .unsigned n.mantissa
    else if n.negative && 0 < n.mantissa && n.mantissa ≤ Nat.pow 2 63 then .signed (-(n.mantissa : Int))
    else .double (Decimal.Literal.finite n.negative n.mantissa n.exponent).toDouble
  else .double (Decimal.Literal.finite n.negative n.mantissa n.exponent).toDouble

def Number.toDouble (n : Number) : Float :=
  (Decimal.Literal.finite n.negative n.mantissa n.exponent).toDouble

def Number.toInt? (n : Number) : Option Int :=
  if n.integral && n.exponent == 0 then
    some (if n.negative then -(n.mantissa : Int) else n.mantissa)
  else none

/-- a JSON value -/
inductive Value where
  | null
  | bool (b : Bool)
  | number (n : Number)
  | string (s : String)
  | array (items : List Value)
  | object (fields : List (String × Value))
  deriving Repr

namespace Value

def field? (v : Value) (key : String) : Option Value :=
  match v with
  | .object fields => (fields.reverse.find? (·.1 == key)).map (·.2)
  | _ => none

def sortedFields (fields : List (String × Value)) : List (String × Value) :=
  let lastWins := fields.foldl (fun acc kv => (acc.filter (·.1 != kv.1)) ++ [kv]) []
  lastWins.mergeSort (fun a b => decide (a.1 ≤ b.1))

def str? : Value → Option String
  | .string s => some s
  | _ => none

def obj? : Value → Option (List (String × Value))
  | .object fs => some fs
  | _ => none

end Value

end Phrasebook.Json
