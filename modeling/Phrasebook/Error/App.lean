import Phrasebook.Error.Translation

/-!
# Application errors

The errors that cross the boundary of the whole application: configuration, input and output,
JSON and TOML reading, localization, validation and others. Configuration, TOML and validation
errors are configuration errors.

`AppError.ofTranslation` turns a translation error into one: an unknown locale becomes a
localization error naming the locale, the other configuration errors configuration errors, and
the rest a localization failure with the translation error as its source.
-/

namespace Phrasebook

/-- an error of the application -/
inductive AppError where
  | config (message : String) (source : Option String)
  | io (text : String)
  | serialization (fault : Json.Fault)
  | toml (text : String)
  | localization (message : String) (locale : Option String) (source : Option String)
  | validation (message : String) (field : Option String)
  | generic (message : String) (source : Option String)

namespace AppError

def kind : AppError → String
  | .config _ _ => "Config"
  | .io _ => "Io"
  | .serialization _ => "Serialization"
  | .toml _ => "Toml"
  | .localization _ _ _ => "Localization"
  | .validation _ _ => "Validation"
  | .generic _ _ => "Generic"

def message : AppError → String
  | .config m _ => "Configuration error: " ++ m
  | .io t => "I/O error: " ++ t
  | .serialization f => "Serialization error: " ++ f.message
  | .toml t => "TOML error: " ++ t
  | .localization m _ _ => "Localization error: " ++ m
  | .validation m _ => "Validation error: " ++ m
  | .generic m _ => m

def source : AppError → Option String
  | .config _ s => s
  | .io t => some t
  | .serialization f => some f.message
  | .toml t => some t
  | .localization _ _ s => s
  | .validation _ _ => none
  | .generic _ s => s

def isConfigError : AppError → Bool
  | .config _ _ | .toml _ | .validation _ _ => true
  | _ => false

/-- the application error of a translation error -/
def ofTranslation (e : TranslationError) : AppError :=
  match e with
  | .localeNotConfigured l _ => .localization e.message (some l) none
  | _ => if e.isConfigError then .config e.message none
    else .localization "i18n failure" none (some e.message)

def ensure (cond : Bool) (field : Option String) (message : String) : Except AppError Unit :=
  if cond then .ok () else .error (.validation message field)

end AppError

end Phrasebook
