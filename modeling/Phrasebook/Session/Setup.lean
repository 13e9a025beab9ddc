import Phrasebook.Session.State
import Phrasebook.Settings.Basic
import Phrasebook.Catalog.Resources

/-!
# Sessions from settings

`Session.ofSettings` starts a session as the settings say: they must validate (a failure is a
configuration error carrying the validation message), every locale directory below the
resource directory is loaded, and the state is built for the settings' locale, fallback and
default namespace.
-/

namespace Phrasebook

/-- a session set up from settings, the resource directory taken below `root` -/
def Session.ofSettings (tree : Files.Tree) (root : Files.Place) (s : Settings) :
    Except TranslationError Session :=
  match s.validate with
  | .error e => .error (.config e.message)
  | .ok () =>
    let loaded := (Resources.atBase (root.below s.localesDir)).loadAll tree
    match loaded.error with
    | some e => .error e
    | none =>
      (State.build loaded.store (Locale.ofTag s.locale) (s.fallbackLocale.map Locale.ofTag)
        (some s.defaultNamespace)).map fun st => { state := st }

end Phrasebook
