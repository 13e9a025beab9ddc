import Phrasebook.Plural.Operands

/-!
# Plural rules

A plural rule names a category and gives a condition on the operands, written as in the CLDR
rule language: relations such as `n % 10 = 2..4` or `v != 0`, joined by `and`, and such
conjunctions joined by `or`.

A relation on `i`, `v`, `w`, `f` or `t` means what it says. A relation on `n`, the number
itself, is decided from the operands as follows:

* `n = k` holds when the number is the whole number `k`;
* `n % m = k` holds when `i % m = k`, so a fraction counts by its integer part;
* a range `n = a..b` holds when `a ≤ i ≤ b` and there is no fraction part; with a modulus,
  `n % m = a..b` holds when `a ≤ i ≤ b`, the modulus taking no part.

A rule set is tried rule by rule in the order listed; the first rule whose condition holds
gives the category, and `other` is the category when none does.
-/

namespace Phrasebook.Plural

/-- the plural categories -/
inductive Category where
  | zero | one | two | few | many | other
  deriving Repr, DecidableEq, Inhabited

def Category.name : Category → String
  | .zero => "zero" | .one => "one" | .two => "two"
  | .few => "few" | .many => "many" | .other => "other"

def Category.all : List Category := [.zero, .one, .two, .few, .many, .other]

/-- the operands a relation can test -/
inductive Operand where
  | n | i | v | w | f | t
  deriving Repr, DecidableEq

/-- a value or an inclusive range of values -/
inductive Item where
  | value (k : Nat)
  | range (lo hi : Nat)
  deriving Repr, DecidableEq

/-- `operand [% modulus] (= | !=) items` -/
structure Relation where
  operand : Operand
  modulus : Option Nat
  negated : Bool
  items : List Item
  deriving Repr, DecidableEq

/-- conjunctions of relations, joined by `or` -/
abbrev Condition := List (List Relation)

/-- a category with the condition that selects it -/
structure Rule where
  category : Category
  condition : Condition
  deriving Repr

def Operands.get (o : Operands) : Operand → Nat
  | .n | .i => o.i
  | .v => o.v
  | .w => o.w
  | .f => o.f
  | .t => o.t

def Item.holds (o : Operands) (operand : Operand) (modulus : Option Nat) : Item → Bool
  | .value k =>
    match operand, modulus with
    | .n, none => o.v == 0 && o.i == k
    | .n, some m => o.i % m == k
    | op, none => o.get op == k
    | op, some m => o.get op % m == k
  | .range lo hi =>
    match operand, modulus with
    | .n, none => lo ≤ o.i && o.i ≤ hi && o.f == 0
    | .n, some _ => lo ≤ o.i && o.i ≤ hi
    | op, none => lo ≤ o.get op && o.get op ≤ hi
    | op, some m => lo ≤ o.get op % m && o.get op % m ≤ hi

def Relation.holds (o : Operands) (r : Relation) : Bool :=
  r.items.any (Item.holds o r.operand r.modulus) != r.negated

def Condition.holds (o : Operands) (c : Condition) : Bool :=
  c.any fun conj => conj.all (Relation.holds o)

def categoryOf (rules : List Rule) (o : Operands) : Category :=
  match rules.find? (fun r => r.condition.holds o) with
  | some r => r.category
  | none => .other

/-! ## The rule language -/

def splitWord (sep : String) (s : String) : List String :=
  (s.splitOn sep).map String.trimAscii |>.map String.Slice.toString

def Item.read (s : String) : Option Item :=
  match s.splitOn ".." with
  | [k] => k.toNat?.map Item.value
  | [a, b] => do pure (Item.range (← a.toNat?) (← b.toNat?))
  | _ => none

def Operand.read : String → Option Operand
  | "n" => some .n | "i" => some .i | "v" => some .v
  | "w" => some .w | "f" => some .f | "t" => some .t
  | _ => none

def Relation.read (s : String) : Option Relation :=
  let (negated, parts) :=
    match s.splitOn "!=" with
    | [l, r] => (true, [l, r])
    | _ => (false, s.splitOn "=")
  match parts with
  | [lhs, rhs] =>
    let lhs := (lhs.splitOn "%").map fun p => (String.trimAscii p).toString
    let items := (rhs.splitOn ",").map fun p => (String.trimAscii p).toString
    match lhs with
    | [op] => do
      pure ⟨← Operand.read op, none, negated, ← items.mapM Item.read⟩
    | [op, m] => do
      pure ⟨← Operand.read op, some (← m.toNat?), negated, ← items.mapM Item.read⟩
    | _ => none
  | _ => none

def Condition.read (s : String) : Condition :=
  let conjs := (splitWord " or " s).map fun c => (splitWord " and " c).mapM Relation.read
  match conjs.mapM id with
  | some c => c
  | none => []

end Phrasebook.Plural
