import Phrasebook.Plural.Data
import Phrasebook.Locale.Basic

/-!
# Choosing a plural category

The rules for a locale are those listed for its language identifier; failing that, those of
its bare language; failing that, the English ones. A number picks its category from the
operands of its absolute value; a number that is not finite is `other`.

`categories` lists the categories a rule set distinguishes, found by trying the whole numbers
up to 200 and `0.5`, `1.5`, `1000` and `1000000`, in the standard order of categories.
-/

namespace Phrasebook.Plural

/-- cardinal rules count; ordinal rules rank -/
inductive Kind where
  | cardinal | ordinal
  deriving Repr, DecidableEq, Hashable

def RuleGroup.toRules (g : RuleGroup) : List Rule :=
  g.rules.map fun (c, text) => ⟨c, Condition.read text⟩

def Kind.groups : Kind → List RuleGroup
  | .cardinal => cardinalGroups
  | .ordinal => ordinalGroups

def rulesOf? (kind : Kind) (id : String) : Option (List Rule) :=
  (kind.groups.find? (·.locales.contains id)).map RuleGroup.toRules

def englishRules (kind : Kind) : List Rule := (rulesOf? kind "en").getD []

def rulesFor (l : Locale) (kind : Kind) : List Rule :=
  let candidates : List String :=
    (l.languageId?.map LanguageId.render).toList ++
      ((LanguageId.parse? l.language).map LanguageId.render).toList
  match candidates.findSome? (rulesOf? kind) with
  | some rules => rules
  | none => englishRules kind

def select (rules : List Rule) (x : Float) : Category :=
  match Decimal.DoubleKind.of x with
  | .finite d => categoryOf rules (Operands.ofDyadic d)
  | _ => .other

def samples : List Float :=
  (List.range 201).map Nat.toFloat ++ [0.5, 1.5, 1000.0, 1000000.0]

/-- the categories that some sample reaches, in the standard order -/
def categories (rules : List Rule) : List Category :=
  let seen := samples.map (select rules)
  Category.all.filter (seen.contains ·)

def categoryFor (l : Locale) (kind : Kind) (x : Float) : Category :=
  select (rulesFor l kind) x

end Phrasebook.Plural
