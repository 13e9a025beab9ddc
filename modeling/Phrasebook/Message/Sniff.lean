import Phrasebook.Text.Blank
import Phrasebook.Text.Word

/-!
# Telling messages from plain templates

A template looks like a message when some `{` is followed, blanks allowed between the parts,
by a name (a letter or `_`, then word characters and `-`), a comma, and one of the kinds
`plural`, `select`, `selectordinal`, `number`, `date` or `time` that ends at a word boundary.
Only such templates go through message evaluation; others go straight to substitution.
-/

namespace Phrasebook.Message

def formattedKinds : List String := ["plural", "select", "selectordinal", "number", "date", "time"]

def isNameStart (c : Char) : Bool := c.isAlpha || c == '_'

def isNamePart (c : Char) : Bool := Text.isWordChar c || c == '-'

def startsWithKind (cs : List Char) : Bool :=
  formattedKinds.any fun k =>
    let kc := k.toList
    kc.isPrefixOf cs && !((cs.drop kc.length).head?.map Text.isWordChar).getD false

def opensFormatted (cs : List Char) : Bool :=
  match cs.dropWhile Text.isBlank with
  | c :: rest =>
    isNameStart c &&
      match (rest.dropWhile isNamePart).dropWhile Text.isBlank with
      | ',' :: more => startsWithKind (more.dropWhile Text.isBlank)
      | _ => false
  | [] => false

def hasFormatted : List Char → Bool
  | [] => false
  | c :: rest => (c == '{' && opensFormatted rest) || hasFormatted rest

def looksLikeMessage (template : String) : Bool := hasFormatted template.toList

end Phrasebook.Message
