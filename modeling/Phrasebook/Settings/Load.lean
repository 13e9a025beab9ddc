import Phrasebook.Settings.Basic
import Phrasebook.Files.Tree

/-!
# Loading settings

Settings are read from a TOML file and then overridden by values from the environment:

* `Settings.override`  the environment's locale, fallback, resource directory and log filter
                       replace those read; a blank fallback clears the one read;
* `loadFromFile`       a file read, parsed, overridden and validated; a file that cannot be read
                       is a configuration error naming it;
* `load`               the file the environment names, else the default file when something is
                       there, else the defaults, overridden and validated.
-/

namespace Phrasebook

/-- values the environment gives to override settings -/
structure Overrides where
  configPath : Option String := none
  locale : Option String := none
  fallbackLocale : Option String := none
  localesDir : Option String := none
  logLevel : Option String := none

/-- settings with the environment's values in place of those read -/
def Settings.override (o : Overrides) (s : Settings) : Settings :=
  { s with
    locale := o.locale.getD s.locale,
    fallbackLocale := match o.fallbackLocale with
      | some f => if Text.isBlankString f then none else some f
      | none => s.fallbackLocale,
    localesDir := o.localesDir.getD s.localesDir,
    logLevel := o.logLevel.getD s.logLevel }

/-- settings read from a file, overridden and validated -/
def loadFromFile (tree : Files.Tree) (o : Overrides) (path : String) : Except AppError Settings := do
  let text ← match tree.readText (Files.namesOf path) with
    | .ok t => pure t
    | .error e => throw (.config ("failed to read settings file " ++ path) (some e.text))
  let s := (← Settings.ofToml text).override o
  s.validate
  pure s

/-- settings from the file the environment names, else from `defaultFile` when something is
there, else the defaults; overridden and validated -/
def load (tree : Files.Tree) (o : Overrides) (defaultFile : String) : Except AppError Settings :=
  match o.configPath with
  | some p => loadFromFile tree o p
  | none =>
    if tree.isPresent (Files.namesOf defaultFile) then loadFromFile tree o defaultFile
    else
      let s := ({} : Settings).override o
      s.validate.map fun _ => s

theorem override_none (s : Settings) : Settings.override {} s = s := rfl

end Phrasebook
