import Phrasebook.Value.Part
import Phrasebook.Table.Basic

/-!
# Rendered output and tag registries

Rendered output is plain text when no tag was handled, and a list of parts otherwise. Its text
is the text of its parts, in order.

A tag registry names the handlers that apply to every message; a call may add its own.
-/

namespace Phrasebook.Markup

/-- rendered output -/
inductive Rendered where
  | text (s : String)
  | parts (ps : List Part)
  deriving Repr, DecidableEq

namespace Rendered

def display : Rendered → String
  | .text s => s
  | .parts ps => String.join (ps.map Part.display)

def isText : Rendered → Bool
  | .text _ => true
  | .parts _ => false

def intoParts : Rendered → List Part
  | .text s => [.text s]
  | .parts ps => ps

def equalsText (r : Rendered) (s : String) : Bool := r.display == s

end Rendered

/-- handlers by tag name -/
structure TagRegistry where
  handlers : Table TagHandler := Table.empty

namespace TagRegistry

def empty : TagRegistry := {}

def register (r : TagRegistry) (name : String) (h : TagHandler) : TagRegistry :=
  ⟨r.handlers.insert name h⟩

def get? (r : TagRegistry) (name : String) : Option TagHandler := r.handlers.get? name

def remove (r : TagRegistry) (name : String) : TagRegistry × Bool :=
  (⟨r.handlers.erase name⟩, r.handlers.contains name)

def names (r : TagRegistry) : List String := r.handlers.keys

def isEmpty (r : TagRegistry) : Bool := r.handlers.isEmpty

end TagRegistry

end Phrasebook.Markup
