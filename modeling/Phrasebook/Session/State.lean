import Phrasebook.Session.Config
import Phrasebook.Catalog.Resolve
import Phrasebook.Message.Eval
import Phrasebook.Message.Sniff
import Phrasebook.Markup.Interpolate

/-!
# Translation sessions

A session holds a store, the current locale (which always has messages), an optional fallback
locale (which need not have any), the default namespace and the registered tag handlers.

Translating a lookup resolves it, formats the template as a message when it looks like one (in
the locale where it was found, so plural rules match the text; a message that cannot be read or
written stays as it is), and then interpolates tags and placeholders in the current locale.

The main definitions are `State.build`, `Config.toState`, `Session.setLocale`,
`Session.reconfigure` and `Session.translateRich`.
-/

namespace Phrasebook

/-- what a session translates with -/
structure State where
  store : Store
  current : Locale
  fallback : Option Locale
  defaultNamespace : String

/-- a state for a store: the current locale must be named and have messages; an empty default
namespace is the standard one -/
def State.build (store : Store) (current : Locale) (fallback : Option Locale)
    (defaultNamespace : Option String) : Except TranslationError State :=
  if current.isEmpty then .error (.config "a locale is required")
  else if !store.hasLocale current then
    .error (.config ("no messages provided for locale '" ++ current.tag ++ "'"))
  else
    .ok ⟨store, current, fallback, match defaultNamespace with
      | some ns => if ns.isEmpty then defaultNamespaceName else ns
      | none => defaultNamespaceName⟩

/-- the state a configuration describes -/
def Config.toState (c : Config) : Except TranslationError State :=
  match c.locale with
  | none => .error (.config "a locale is required")
  | some l =>
    if Text.isBlankString l then .error (.config "a locale is required")
    else match c.messages with
      | none => .error (.config "a messages object is required")
      | some m =>
        State.build (Store.fromMaps m c.sourceKeys) (Locale.ofTag l)
          (c.fallbackLocale.map Locale.ofTag) c.defaultNamespace

/-- a translation session -/
structure Session where
  state : State
  tags : Markup.TagRegistry := Markup.TagRegistry.empty

namespace Session

def ofConfig (c : Config) : Except TranslationError Session :=
  c.toState.map fun s => { state := s }

def ofStore (store : Store) (l : Locale) (fallback : Option Locale) :
    Except TranslationError Session :=
  (State.build store l fallback none).map fun s => { state := s }

/-- replaces the state by the one a configuration describes; the tag handlers stay. A failure
leaves the session as it was. -/
def reconfigure (s : Session) (c : Config) : Except TranslationError Session :=
  c.toState.map fun st => { s with state := st }

def locale (s : Session) : Locale := s.state.current

def fallback (s : Session) : Option Locale := s.state.fallback

def defaultNamespace (s : Session) : String := s.state.defaultNamespace

def availableLocales (s : Session) : List Locale := s.state.store.locales

/-- switches to a locale that has messages -/
def setLocale (s : Session) (raw : String) : Except TranslationError Session :=
  let l := Locale.ofTag raw
  if !s.state.store.hasLocale l then
    .error (.localeNotConfigured l.tag (s.state.store.locales.map (·.tag)))
  else .ok { s with state := { s.state with current := l } }

def registerTag (s : Session) (name : String) (h : TagHandler) : Session :=
  { s with tags := s.tags.register name h }

def unregisterTag (s : Session) (name : String) : Session × Bool :=
  let (tags, had) := s.tags.remove name
  ({ s with tags := tags }, had)

def resolution (s : Session) (lookup : String) (ns : Option String) : Resolution :=
  s.state.store.resolve s.state.current s.state.fallback lookup (ns.getD s.state.defaultNamespace)

def hasTranslation (s : Session) (lookup : String) (ns : Option String) : Bool :=
  (s.resolution lookup ns).found

def resolve (s : Session) (lookup : String) (ns : Option String) : String × Bool :=
  let r := s.resolution lookup ns
  (r.template, r.found)

/-- translates a lookup into rendered output -/
def translateRich (s : Session) (lookup : String) (vs : Values) (ns : Option String) :
    Markup.Rendered :=
  let r := s.resolution lookup ns
  let pluralLocale := r.locale.getD s.state.current
  let formatted := if Message.looksLikeMessage r.template
    then Message.formatOrKeep r.template pluralLocale vs else r.template
  Markup.interpolate formatted vs s.tags s.state.current

def translate (s : Session) (lookup : String) (vs : Values) (ns : Option String) : String :=
  (s.translateRich lookup vs ns).display

def t (s : Session) (lookup : String) : String := s.translate lookup Values.empty none

end Session

end Phrasebook
