import Phrasebook.Session.State

/-!
# The shared session

Callers that do not pass a session around use a shared one. It is absent until the first
successful `init` (or an `install`); after that `init` reconfigures it in place. While it is
absent, translating gives the lookup back and the other calls fail with `notInitialized`.
-/

namespace Phrasebook

/-- the shared session, if there is one -/
structure Shared where
  current : Option Session := none

namespace Shared

/-- installs a session, replacing any -/
def install (_ : Shared) (s : Session) : Shared := ⟨some s⟩

/-- sets up the shared session, or reconfigures the present one -/
def init (g : Shared) (c : Config) : Except TranslationError (Shared × Session) :=
  match g.current with
  | some s => (s.reconfigure c).map fun s' => (⟨some s'⟩, s')
  | none => (Session.ofConfig c).map fun s => (⟨some s⟩, s)

def isInitialized (g : Shared) : Bool := g.current.isSome

def get (g : Shared) : Except TranslationError Session :=
  match g.current with
  | some s => .ok s
  | none => .error .notInitialized

def translate (g : Shared) (lookup : String) (vs : Values) (ns : Option String) : String :=
  match g.current with
  | some s => s.translate lookup vs ns
  | none => lookup

def translateRich (g : Shared) (lookup : String) (vs : Values) (ns : Option String) :
    Markup.Rendered :=
  match g.current with
  | some s => s.translateRich lookup vs ns
  | none => .text lookup

def t (g : Shared) (lookup : String) : String := g.translate lookup Values.empty none

def getLocale (g : Shared) : Except TranslationError Locale := g.get.map Session.locale

def setLocale (g : Shared) (raw : String) : Except TranslationError Shared := do
  let s ← g.get
  let s' ← s.setLocale raw
  pure ⟨some s'⟩

def registerTag (g : Shared) (name : String) (h : TagHandler) : Except TranslationError Shared := do
  let s ← g.get
  pure ⟨some (s.registerTag name h)⟩

end Shared

end Phrasebook
