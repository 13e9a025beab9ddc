import Phrasebook.Text.Blank
import Phrasebook.Settings.Filter
import Phrasebook.Toml.Report
import Phrasebook.Error.App

/-!
# Settings

The settings of a host: the locale to start with, the one to fall back to, where the resource
files are, the namespace used when none is named, and the log filter.

* `Settings.ofToml`    settings from TOML text: the top-level keys `locale`, `fallback_locale`,
                       `locales_dir`, `default_namespace` and `log_level`, each a string when
                       given; other keys and tables are ignored, and what is not given keeps
                       its default;
* `Settings.validate`  every field usable: the locale and namespace not blank, a fallback not
                       blank when given, the directory not empty, the filter well formed.
-/

namespace Phrasebook

/-- the settings of a host -/
structure Settings where
  locale : String := "en"
  fallbackLocale : Option String := none
  localesDir : String := "locales"
  defaultNamespace : String := "common"
  logLevel : String := "info"

namespace Settings

def unexpected : Toml.Node → Json.Unexpected
  | .atom (.string s) _ => .string s
  | .atom (.integer i) _ => .signed i
  | .atom (.float x) _ => .double x
  | .atom (.boolean b) _ => .bool b
  | .atom .datetime _ | .inline _ _ _ | .table _ _ _ _ => .map
  | .array _ _ | .tables _ _ => .sequence

def stringField (expected : String) (n : Toml.Node) : Except Toml.Report String :=
  match n with
  | .atom (.string s) _ => .ok s
  | _ => .error ⟨"invalid type: " ++ (unexpected n).text ++ ", expected " ++ expected, some n.span⟩

def setEntry (s : Settings) : String × Toml.Node → Except Toml.Report Settings
  | ("locale", n) => return { s with locale := ← stringField "a string" n }
  | ("fallback_locale", n) => return { s with fallbackLocale := some (← stringField "a string" n) }
  | ("locales_dir", n) => return { s with localesDir := ← stringField "path string" n }
  | ("default_namespace", n) => return { s with defaultNamespace := ← stringField "a string" n }
  | ("log_level", n) => return { s with logLevel := ← stringField "a string" n }
  | _ => .ok s

def tomlError (text : String) (r : Toml.Report) : AppError := .toml (r.render text)

/-- settings from TOML text; what is not given keeps its default -/
def ofToml (text : String) : Except AppError Settings :=
  match Toml.readDocument text with
  | .error e => .error (tomlError text (e.report text.utf8ByteSize))
  | .ok entries =>
    match entries.foldlM setEntry {} with
    | .ok s => .ok s
    | .error r => .error (tomlError text r)

/-- checks that every field holds a usable value -/
def validate (s : Settings) : Except AppError Unit := do
  AppError.ensure (!Text.isBlankString s.locale) (some "locale") "locale must not be empty"
  AppError.ensure (s.fallbackLocale.all (!Text.isBlankString ·)) (some "fallback_locale")
    "fallback_locale must not be empty when set"
  AppError.ensure (!Text.isBlankString s.defaultNamespace) (some "default_namespace")
    "default_namespace must not be empty"
  AppError.ensure (!s.localesDir.isEmpty) (some "locales_dir") "locales_dir must not be empty"
  AppError.ensure (isValidFilter s.logLevel) (some "log_level")
    ("log_level is not a valid filter directive: " ++ s.logLevel)

end Settings

end Phrasebook
