import Phrasebook.Catalog.Store
import Phrasebook.Markup.Substitute

/-!
# Comparing locales

`Store.diff s base target` lists, for each namespace of either locale, the keys only the base
has (missing) and those only the target has (extra), and for each key both have, the
placeholder names whose sets differ.
-/

namespace Phrasebook

/-- placeholders that differ between two translations of one key -/
structure VariableMismatch where
  namespace_ : String
  key : String
  missing : List String
  extra : List String

/-- the differences of a target locale from a base locale -/
structure LocaleDiff where
  missingKeys : List (String × List String) := []
  extraKeys : List (String × List String) := []
  variableMismatches : List VariableMismatch := []

def LocaleDiff.isClean (d : LocaleDiff) : Bool :=
  d.missingKeys.isEmpty && d.extraKeys.isEmpty && d.variableMismatches.isEmpty

def sortedUnique (xs : List String) : List String :=
  (xs.mergeSort (fun a b => decide (a ≤ b))).eraseDups

def without (xs ys : List String) : List String := xs.filter (!ys.contains ·)

namespace Store

def diff (s : Store) (base target : Locale) : LocaleDiff :=
  let nss := sortedUnique (s.namespaces base ++ s.namespaces target)
  nss.foldl (fun d ns =>
    let bk := s.keys base ns
    let tk := s.keys target ns
    let missing := without bk tk
    let extra := without tk bk
    let common := bk.filter tk.contains
    let mismatches := common.filterMap fun k =>
      match s.message base ns k, s.message target ns k with
      | some bt, some tt =>
        let bv := Markup.placeholders bt
        let tv := Markup.placeholders tt
        if bv == tv then none else some ⟨ns, k, without bv tv, without tv bv⟩
      | _, _ => none
    { missingKeys := if missing.isEmpty then d.missingKeys else d.missingKeys ++ [(ns, missing)],
      extraKeys := if extra.isEmpty then d.extraKeys else d.extraKeys ++ [(ns, extra)],
      variableMismatches := d.variableMismatches ++ mismatches }) {}

end Store

end Phrasebook
