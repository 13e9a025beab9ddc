import Phrasebook.Value.Scalar
import Phrasebook.Value.Part
import Phrasebook.Table.Basic

/-!
# Values

The values of a call: a table from names to scalars and tag handlers. Setting a name again
replaces its value; the names are listed in byte order.
-/

namespace Phrasebook

/-- a named value: a scalar, or a tag handler -/
inductive Value where
  | scalar (s : Scalar)
  | tag (h : TagHandler)

/-- the values of a call, by name -/
structure Values where
  table : Table Value := Table.empty

namespace Values

def empty : Values := {}

def set (vs : Values) (name : String) (v : Value) : Values := ⟨vs.table.insert name v⟩

def get? (vs : Values) (name : String) : Option Value := vs.table.get? name

def scalar? (vs : Values) (name : String) : Option Scalar :=
  match vs.get? name with
  | some (.scalar s) => some s
  | _ => none

def tag? (vs : Values) (name : String) : Option TagHandler :=
  match vs.get? name with
  | some (.tag h) => some h
  | _ => none

def scalars (vs : Values) : Table Scalar :=
  vs.table.filterMap fun _ v =>
    match v with
    | .scalar s => some s
    | .tag _ => none

def toList (vs : Values) : List (String × Value) := vs.table.toList

def size (vs : Values) : Nat := vs.table.size

def isEmpty (vs : Values) : Bool := vs.table.isEmpty

def ofList (l : List (String × Value)) : Values := l.foldl (fun vs e => vs.set e.1 e.2) empty

theorem scalar?_set (vs : Values) (name : String) (s : Scalar) :
    (vs.set name (.scalar s)).scalar? name = some s := by
  simp [scalar?, set, get?]

end Values

end Phrasebook
