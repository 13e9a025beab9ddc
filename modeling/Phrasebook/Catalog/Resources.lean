import Phrasebook.Catalog.Store
import Phrasebook.Files.Tree
import Phrasebook.Json.Read

/-!
# Resource directories

Messages kept on disk: below a base directory, one directory per locale, named by its tag in
any spelling (`en_us` is `en-US`); in it, `<namespace>.json` maps keys to templates and the
optional `<namespace>.meta.json` maps source texts to keys. Only string values are kept.

* `Resources.discover`    the locale directories, sorted by locale and then by name; entries
                          that are not directories or whose names are not UTF-8 are passed over;
* `Resources.loadDir`     the namespace files of one directory into a store (a directory with
                          none still makes its locale known, with an empty standard namespace);
* `Resources.loadLocale`, `Resources.loadAll`  every directory of one locale, or of all.

Loading stops at the first file that cannot be read or is not an object; what was merged
before stays merged, and a locale counts as loaded once its whole directory is.
-/

namespace Phrasebook

/-- a loader of locale directories below a base, and the locales it has loaded -/
structure Resources where
  base : Files.Place
  loaded : List Locale := []

/-- a store and loader as far as loading went, and the error that stopped it, if any -/
structure Loaded where
  store : Store
  resources : Resources
  error : Option TranslationError

namespace Resources

def atBase (base : Files.Place) : Resources := ⟨base, []⟩

def isLoaded (r : Resources) (l : Locale) : Bool := r.loaded.any (·.tag == l.tag)

def markLoaded (r : Resources) (l : Locale) : Resources :=
  if r.isLoaded l then r
  else { r with loaded := (r.loaded ++ [l]).mergeSort (fun a b => decide (a.tag ≤ b.tag)) }

/-- the locale directories below the base, sorted by locale and then by name -/
def discover (tree : Files.Tree) (r : Resources) : Except TranslationError (List (Locale × Files.Place)) :=
  match tree.listDir r.base.names with
  | .error e => .error (.resourceLoad r.base.shown e)
  | .ok names =>
    let found := names.filterMap fun n =>
      let p := r.base.join n
      if tree.isDir p.names then (Files.Name.text? n).map fun s => (Locale.ofTag s, s, p) else none
    let sorted := found.mergeSort fun a b =>
      decide (a.1.tag < b.1.tag) || (a.1.tag == b.1.tag && decide (a.2.1 ≤ b.2.1))
    .ok (sorted.map fun (l, _, p) => (l, p))

def readEntries (tree : Files.Tree) (p : Files.Place) : Except TranslationError Entries :=
  match tree.readText p.names with
  | .error e => .error (.resourceLoad p.shown e)
  | .ok text =>
    match Json.Value.read text with
    | .error f => .error (.resourceParse p.shown f)
    | .ok v => Store.stringEntries v p.shown

def namespaceFiles (tree : Files.Tree) (dir : Files.Place) : Except TranslationError (List (String × Files.Place)) :=
  match tree.listDir dir.names with
  | .error e => .error (.resourceLoad dir.shown e)
  | .ok names =>
    let files := names.filterMap fun n =>
      match Files.Name.text? n with
      | none => none
      | some s =>
        let p := dir.join n
        if s.endsWith ".meta.json" || !tree.isFile p.names then none
        else if s.endsWith ".json" then some (String.ofList (s.toList.take (s.length - 5)), p)
        else none
    .ok (files.mergeSort fun a b => decide (a.1 ≤ b.1))

def mergeFiles (tree : Files.Tree) (l : Locale) (dir : Files.Place) :
    Store → List (String × Files.Place) → Store × Option TranslationError
  | store, [] => (store, none)
  | store, (ns, p) :: rest =>
    match readEntries tree p with
    | .error e => (store, some e)
    | .ok messages =>
      let metaPlace := dir.join (Files.nameOf (ns ++ ".meta.json"))
      let sources : Except TranslationError (Option Entries) :=
        if tree.isFile metaPlace.names then (readEntries tree metaPlace).map some else .ok none
      match sources with
      | .error e => (store, some e)
      | .ok m => mergeFiles tree l dir (store.mergeNamespace l ns messages m) rest

/-- loads one directory as a locale -/
def loadDir (tree : Files.Tree) (r : Resources) (store : Store) (l : Locale) (dir : Files.Place) : Loaded :=
  match namespaceFiles tree dir with
  | .error e => ⟨store, r, some e⟩
  | .ok files =>
    match mergeFiles tree l dir store files with
    | (store', some e) => ⟨store', r, some e⟩
    | (store', none) =>
      let store'' := if store'.hasLocale l then store'
        else store'.mergeNamespace l defaultNamespaceName Table.empty none
      ⟨store'', r.markLoaded l, none⟩

def loadDirs (tree : Files.Tree) : Resources → Store → List (Locale × Files.Place) → Loaded
  | r, store, [] => ⟨store, r, none⟩
  | r, store, (l, dir) :: rest =>
    match loadDir tree r store l dir with
    | ⟨store', r', none⟩ => loadDirs tree r' store' rest
    | stopped => stopped

/-- loads every directory that names a locale -/
def loadLocale (tree : Files.Tree) (r : Resources) (store : Store) (l : Locale) : Loaded :=
  match discover tree r with
  | .error e => ⟨store, r, some e⟩
  | .ok found =>
    match (found.filter (·.1.tag == l.tag)).map (·.2) with
    | [] => ⟨store, r, some (.resourceLoad (r.base.join (Files.nameOf l.tag)).shown
        (.custom "no directory for locale"))⟩
    | dirs => loadDirs tree r store (dirs.map (l, ·))

/-- loads every locale directory into a new store -/
def loadAll (tree : Files.Tree) (r : Resources) : Loaded :=
  match discover tree r with
  | .error e => ⟨Store.empty, r, some e⟩
  | .ok found => loadDirs tree r Store.empty found

end Resources

end Phrasebook
