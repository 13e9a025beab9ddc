import Phrasebook.Locale.LanguageId
import Phrasebook.Text.Blank

/-!
# Locales

A locale names a language variety. It is made from a tag: blanks around the tag are dropped,
and a tag that reads as a language identifier once `_` is taken for `-` is replaced by the
identifier's canonical text (`en_us` becomes `en-US`). Any other tag is kept as it is after
trimming (`pirate speak`). Locales compare by their text.

The language of a locale is its text up to the first `-`.
-/

namespace Phrasebook

/-- a locale, by its normalised text -/
structure Locale where
  tag : String
  deriving Repr, DecidableEq, Hashable

namespace Locale

instance : Ord Locale := ⟨fun a b => compare a.tag b.tag⟩

instance : LT Locale := ⟨fun a b => a.tag < b.tag⟩

instance (a b : Locale) : Decidable (a < b) := inferInstanceAs (Decidable (a.tag < b.tag))

def hyphenate (s : String) : String := String.ofList (s.toList.map fun c => if c = '_' then '-' else c)

def ofTag (raw : String) : Locale :=
  let trimmed := Text.trimBlanks raw
  match LanguageId.parse? (hyphenate trimmed) with
  | some id => ⟨id.render⟩
  | none => ⟨trimmed⟩

def language (l : Locale) : String :=
  String.ofList (l.tag.toList.takeWhile (· != '-'))

def isEmpty (l : Locale) : Bool := l.tag.isEmpty

def languageId? (l : Locale) : Option LanguageId := LanguageId.parse? l.tag

instance : ToString Locale := ⟨Locale.tag⟩

theorem ofTag_tag_of_parse_none (raw : String)
    (h : LanguageId.parse? (hyphenate (Text.trimBlanks raw)) = none) :
    (ofTag raw).tag = Text.trimBlanks raw := by
  simp [ofTag, h]

end Locale

end Phrasebook
