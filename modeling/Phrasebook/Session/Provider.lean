import Phrasebook.Session.State

/-!
# Provider scopes

A user interface enters a provider scope around a part of itself; inside, hooks find the
session of the innermost scope. Scopes nest and end in the reverse order of entering.
-/

namespace Phrasebook

/-- the sessions of the open scopes, innermost first -/
structure Providers where
  stack : List Session := []

/-- translation in a namespace through the session of a scope -/
structure Translator where
  session : Session
  namespace_ : Option String

namespace Providers

def enter (p : Providers) (s : Session) : Providers := ⟨s :: p.stack⟩

def leave (p : Providers) : Providers := ⟨p.stack.tail⟩

def current (p : Providers) (hook : String) : Except TranslationError Session :=
  match p.stack with
  | s :: _ => .ok s
  | [] => .error (.outsideProvider hook)

def useI18n (p : Providers) : Except TranslationError Session := p.current "use_i18n"

def useTranslation (p : Providers) (ns : Option String) : Except TranslationError Translator :=
  (p.current "use_translation").map fun s => ⟨s, ns⟩

end Providers

namespace Translator

def t (tr : Translator) (lookup : String) (vs : Values) : String :=
  tr.session.translate lookup vs tr.namespace_

def rich (tr : Translator) (lookup : String) (vs : Values) : Markup.Rendered :=
  tr.session.translateRich lookup vs tr.namespace_

def locale (tr : Translator) : Locale := tr.session.locale

def setLocale (tr : Translator) (raw : String) : Except TranslationError Translator :=
  (tr.session.setLocale raw).map fun s => { tr with session := s }

end Translator

end Phrasebook
