import Phrasebook.Error.Io
import Phrasebook.Json.Read
import Phrasebook.Text.Quoted

/-!
# Errors of setting up and using translations

Only setup problems and misuse are errors: a missing translation or a broken message gives a
best-effort text instead. Configuration errors are the bad configurations, unknown locales and
invalid language identifiers.
-/

namespace Phrasebook

/-- why setting up or using translations failed -/
inductive TranslationError where
  | config (message : String)
  | localeNotConfigured (locale : String) (available : List String)
  | invalidLanguageId (tag : String)
  | resourceLoad (path : String) (source : IoError)
  | resourceParse (path : String) (source : Json.Fault)
  | notInitialized
  | outsideProvider (hook : String)

namespace TranslationError

def kind : TranslationError → String
  | .config _ => "Config"
  | .localeNotConfigured _ _ => "LocaleNotConfigured"
  | .invalidLanguageId _ => "InvalidLanguageId"
  | .resourceLoad _ _ => "ResourceLoad"
  | .resourceParse _ _ => "ResourceParse"
  | .notInitialized => "NotInitialized"
  | .outsideProvider _ => "OutsideProvider"

def message : TranslationError → String
  | .config m => "Invalid i18n configuration: " ++ m
  | .localeNotConfigured l available =>
    "Locale '" ++ l ++ "' is not configured; available locales: " ++ Text.quotedList available
  | .invalidLanguageId t => "Invalid language identifier: " ++ t
  | .resourceLoad p e => "Failed to load resource file " ++ p ++ ": " ++ e.text
  | .resourceParse p f => "Failed to parse resource file " ++ p ++ ": " ++ f.message
  | .notInitialized => "i18n has not been initialized; call init() first"
  | .outsideProvider hook => hook ++ " must be used within an I18nProvider"

def isConfigError : TranslationError → Bool
  | .config _ | .localeNotConfigured _ _ | .invalidLanguageId _ => true
  | _ => false

end TranslationError

end Phrasebook
