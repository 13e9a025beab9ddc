import Phrasebook.Decimal.Layout
import Phrasebook.Decimal.Read
import Phrasebook.Time.Instant
import Phrasebook.Text.Blank

/-!
# Scalar values

A scalar is a value a message can show: text, a 64-bit integer, a double, a truth value or an
instant.

* `Scalar.display`  its text: a double in the shortest form that reads back, without exponent;
                    an instant in RFC 3339 form;
* `Scalar.asNumber` its value as a number: integers and doubles are numbers, and text is when it
                    reads as a double once blanks around it are trimmed;
* `Scalar.isTextOrNumber`  whether it may stand in for a `{name}` placeholder.

Two scalars are equal when they are of one kind and equal there, doubles compared as numbers,
so `NaN` equals nothing.
-/

namespace Phrasebook

/-- a value a message can show -/
inductive Scalar where
  | str (s : String)
  | int (i : Int64)
  | float (x : Float)
  | bool (b : Bool)
  | date (t : Time.Instant)

namespace Scalar

/-- the text of a scalar -/
def display : Scalar → String
  | .str s => s
  | .int i => toString i.toInt
  | .float x => Decimal.display x
  | .bool b => if b then "true" else "false"
  | .date t => t.rfc3339

def int64Max : Int := 9223372036854775807

def ofSize (n : Nat) : Scalar := .int (Int64.ofInt (min (n : Int) int64Max))

def intToDouble (i : Int) : Float := Decimal.doubleOfRatio (decide (i < 0)) i.natAbs 1

/-- the value of a scalar as a number, when it has one -/
def asNumber : Scalar → Option Float
  | .int i => some (intToDouble i.toInt)
  | .float x => some x
  | .str s => Decimal.readDouble (Text.trimBlanks s)
  | .bool _ | .date _ => none

/-- whether a scalar may fill a `{name}` placeholder -/
def isTextOrNumber : Scalar → Bool
  | .str _ | .int _ | .float _ => true
  | .bool _ | .date _ => false

def same : Scalar → Scalar → Bool
  | .str a, .str b => a == b
  | .int a, .int b => a == b
  | .float a, .float b => a == b
  | .bool a, .bool b => a == b
  | .date a, .date b => a == b
  | _, _ => false

instance : BEq Scalar := ⟨same⟩

theorem display_str (s : String) : (Scalar.str s).display = s := rfl

theorem ofSize_large (n : Nat) (h : int64Max ≤ n) : ofSize n = .int (Int64.ofInt int64Max) := by
  simp only [ofSize, Int.min_eq_right h]

theorem isTextOrNumber_bool (b : Bool) : (Scalar.bool b).isTextOrNumber = false := rfl

end Scalar

end Phrasebook
