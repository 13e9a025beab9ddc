import Phrasebook.Decimal.Layout
import Phrasebook.Locale.Basic
import Phrasebook.Text.Blank

/-!
# Formatting numbers

`formatNumber l x style` writes a number for a locale:

* `NaN` as `NaN` and the infinities as `∞` and `-∞`;
* otherwise the magnitude rounded half to even to three places (`decimal`), to a whole number
  (`integer`), or a hundred times the number to a whole number followed by `%` (`percent`);
  trailing zeros of the fraction are dropped, and a minus sign is written for a negative number
  unless it rounds to zero;
* the whole part in groups of three, and the separators chosen by the locale's language.
-/

namespace Phrasebook.Format

/-- how a number is written -/
inductive NumberStyle where
  | decimal | integer | percent
  deriving Repr, DecidableEq

def NumberStyle.ofStyle : Option String → NumberStyle
  | some s =>
    let s := Text.trimBlanks s
    if s = "integer" then .integer else if s = "percent" then .percent else .decimal
  | none => .decimal

/-- the separators of a language: between groups of digits, and before the fraction -/
structure Separators where
  group : String
  point : Char
  deriving Repr, DecidableEq

def dotGroupLanguages : List String :=
  ["de", "es", "it", "pt", "nl", "id", "tr", "da", "el", "ro", "hr", "sl", "sr"]

def spaceGroupLanguages : List String :=
  ["ru", "pl", "cs", "uk", "sv", "nb", "no", "fi", "sk", "hu", "bg", "lt", "lv", "et"]

def separatorsFor (l : Locale) : Separators :=
  let lang := l.language
  if dotGroupLanguages.contains lang then ⟨".", ','⟩
  else if lang = "fr" then ⟨"\u202F", ','⟩
  else if spaceGroupLanguages.contains lang then ⟨"\u00A0", ','⟩
  else ⟨",", '.'⟩

def groupDigits (sep : String) (digits : List Char) : String :=
  let n := digits.length
  if n ≤ 3 then String.ofList digits
  else String.join (digits.mapIdx fun i c =>
    (if 0 < i ∧ (n - i) % 3 = 0 then sep else "") ++ c.toString)

def dropTrailingZeros (cs : List Char) : List Char :=
  (cs.reverse.dropWhile (· == '0')).reverse

/-- writes a number for a locale in a style -/
def formatNumber (l : Locale) (x : Float) (style : NumberStyle) : String :=
  if x.isNaN then "NaN"
  else if x.isInf then (if x < 0 then "-∞" else "∞")
  else
    let (v, places, suffix) := match style with
      | .decimal => (x, 3, "")
      | .integer => (x, 0, "")
      | .percent => (x * 100, 0, "%")
    let rendered := (Decimal.fixed v.abs places).toList
    let whole := rendered.takeWhile (· != '.')
    let fraction := dropTrailingZeros ((rendered.dropWhile (· != '.')).drop 1)
    let seps := separatorsFor l
    let isZero := whole.all (· == '0') && fraction.isEmpty
    let sign := if v < 0 && !isZero then "-" else ""
    let tail := if fraction.isEmpty then "" else seps.point.toString ++ String.ofList fraction
    sign ++ groupDigits seps.group whole ++ tail ++ suffix

end Phrasebook.Format
