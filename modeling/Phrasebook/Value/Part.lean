import Phrasebook.Locale.Basic
import Phrasebook.Text.Upper

/-!
# Parts of rendered output

Rendered output is text, or a list of parts when tags were handled. A part is text or a node, a
rich value such as a link, with a kind and content, shown as `[kind|content]`.

A tag handler turns the content of a `<name>…</name>` span into a part, given the locale.
`TagHandler.upper`, `appendLocale`, `identity`, `erase`, `wrap` and `node` are the common ones.
-/

namespace Phrasebook

/-- a rich value of rendered output -/
structure Node where
  label : String
  content : String
  deriving Repr, DecidableEq

def Node.display (n : Node) : String := "[" ++ n.label ++ "|" ++ n.content ++ "]"

/-- a piece of rendered output -/
inductive Part where
  | text (s : String)
  | node (n : Node)
  deriving Repr, DecidableEq

namespace Part

def display : Part → String
  | .text s => s
  | .node n => n.display

def asText : Part → Option String
  | .text s => some s
  | .node _ => none

def asNode : Part → Option Node
  | .text _ => none
  | .node n => some n

end Part

/-- turns the content of a tag into a part, given the locale -/
structure TagHandler where
  run : Part → Locale → Part

namespace TagHandler

/-- the text of the content in upper case -/
def upper : TagHandler := ⟨fun p _ => .text (Text.upper p.display)⟩

/-- the text of the content followed by `@` and the locale -/
def appendLocale : TagHandler := ⟨fun p l => .text (p.display ++ "@" ++ l.tag)⟩

/-- the content unchanged -/
def identity : TagHandler := ⟨fun p _ => p⟩

/-- no text -/
def erase : TagHandler := ⟨fun _ _ => .text ""⟩

/-- the text of the content between a prefix and a suffix -/
def wrap (pre post : String) : TagHandler := ⟨fun p _ => .text (pre ++ p.display ++ post)⟩

/-- a node of a kind holding the text of the content -/
def node (label : String) : TagHandler := ⟨fun p _ => .node ⟨label, p.display⟩⟩

def describe (_ : TagHandler) : String := "TagHandler(..)"

end TagHandler

end Phrasebook
