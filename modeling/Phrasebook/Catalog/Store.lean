import Phrasebook.Catalog.Key
import Phrasebook.Error.Translation
import Phrasebook.Locale.Basic
import Phrasebook.Table.Basic

/-!
# Message stores

A store holds, for each locale and namespace, messages by key, and source keys (meta): for
each locale and namespace, the key a source text was given. Locales are kept by their normalised tag.

* `Store.fromMapsBy`   the store of raw tables keyed by locale tags as written, each map
                       visited in a given order; tags that normalise to one locale are merged,
                       a tag visited later winning on a key both give;
* `Store.fromMaps`     the same, every map visited in reverse byte order of its keys;
* `Store.ofJson`       the same from JSON, keeping only the string messages;
* `Store.insertSource` stores a translation under the key of its source text, with the meta
                       entry that leads from the source to the key;
* queries: `hasLocale`, `locales`, `namespaces`, `keys`, `message`, `metaKey`, `size`.
-/

namespace Phrasebook

/-- templates by key -/
abbrev Entries := Table String

/-- entries by namespace -/
abbrev Namespaces := Table Entries

/-- namespaces by locale tag as written -/
abbrev RawEntries := Table Namespaces

def defaultNamespaceName : String := "common"

/-- messages and meta by locale and namespace -/
structure Store where
  messages : Table Namespaces := Table.empty
  sourceKeys : Table Namespaces := Table.empty

namespace Store

def empty : Store := {}

def extend (target source : Entries) : Entries :=
  source.toList.foldl (fun t e => t.insert e.1 e.2) target

def mergeNamespaces (target source : Namespaces) : Namespaces :=
  source.toList.foldl (fun t e => t.alter e.1 fun old => extend (old.getD Table.empty) e.2) target

/-- an order in which hash maps hand out their entries: for each map, named by the keys that
lead to it from the outermost one, some permutation of its entries -/
structure Visit where
  order : {α : Type} → List String → Table α → List (String × α)
  perm : ∀ {α : Type} (path : List String) (t : Table α), (order path t).Perm t.entries

def Visit.sorted : Visit := ⟨fun _ t => t.entries, fun _ _ => List.Perm.refl _⟩

def Visit.reversed : Visit := ⟨fun _ t => t.entries.reverse, fun _ t => List.reverse_perm t.entries⟩

section Visits

variable (v : Visit)

def extendBy (path : List String) (target source : Entries) : Entries :=
  (v.order path source).foldl (fun t e => t.insert e.1 e.2) target

def mergeNamespacesBy (path : List String) (target source : Namespaces) : Namespaces :=
  (v.order path source).foldl (fun t e =>
    t.alter e.1 fun old => extendBy v (path ++ [e.1]) (old.getD Table.empty) e.2) target

def mergeRawBy (path : List String) (target : Table Namespaces) (raw : RawEntries) :
    Table Namespaces :=
  (v.order path raw).foldl (fun t e => t.alter (Locale.ofTag e.1).tag fun old =>
    mergeNamespacesBy v (path ++ [e.1]) (old.getD Table.empty) e.2) target

/-- the store of raw messages and meta, every map visited in the order `v` gives it -/
def fromMapsBy (messages : RawEntries) (sources : Option RawEntries) : Store :=
  ⟨mergeRawBy v ["messages"] Table.empty messages,
    mergeRawBy v ["meta"] Table.empty (sources.getD Table.empty)⟩

end Visits

/-- the store of raw messages and meta, every map visited in reverse byte order of its keys -/
def fromMaps (messages : RawEntries) (sources : Option RawEntries) : Store :=
  fromMapsBy Visit.reversed messages sources

def stringEntries (v : Json.Value) (context : String) : Except TranslationError Entries :=
  match v with
  | .object fs =>
    .ok (Table.ofList ((Json.Value.sortedFields fs).filterMap fun
      | (k, .string s) => some (k, s)
      | _ => none))
  | _ => .error (.config (context ++ " must be an object of strings"))

def rawOfJson (v : Json.Value) (what : String) : Except TranslationError RawEntries :=
  match v with
  | .object locales =>
    (Json.Value.sortedFields locales).foldlM (fun acc (locale, namespaces) =>
      match namespaces with
      | .object nss => do
        let byNs ← (Json.Value.sortedFields nss).foldlM (fun t (ns, entries) => do
          let es ← stringEntries entries (what ++ "." ++ locale ++ "." ++ ns)
          pure (t.insert ns es)) Table.empty
        pure (acc.insert locale byNs)
      | _ => .error (.config (what ++ "." ++ locale ++ " must be an object keyed by namespace")))
      Table.empty
  | _ => .error (.config (what ++ " must be an object keyed by locale"))

/-- the store of JSON messages and meta -/
def ofJson (messages : Json.Value) (sources : Option Json.Value) : Except TranslationError Store := do
  let m ← rawOfJson messages "messages"
  let x ← match sources with
    | some v => (rawOfJson v "meta").map some
    | none => pure none
  pure (fromMaps m x)

def setIn (t : Table Namespaces) (l : Locale) (ns key value : String) : Table Namespaces :=
  t.alter l.tag fun old =>
    let nss := old.getD Table.empty
    nss.alter ns fun es => (es.getD Table.empty).insert key value

def insertMessage (s : Store) (l : Locale) (ns key template : String) : Store :=
  { s with messages := setIn s.messages l ns key template }

def insertMeta (s : Store) (l : Locale) (ns source key : String) : Store :=
  { s with sourceKeys := setIn s.sourceKeys l ns source key }

/-- stores a translation under the key of its source text and records that key -/
def insertSource (s : Store) (l : Locale) (ns source translation : String) : Store × String :=
  let key := messageKey source
  ((s.insertMessage l ns key translation).insertMeta l ns source key, key)

def mergeNamespace (s : Store) (l : Locale) (ns : String) (messages : Entries)
    (sources : Option Entries) : Store :=
  let addTo (t : Table Namespaces) (es : Entries) : Table Namespaces :=
    t.alter l.tag fun old =>
      (old.getD Table.empty).alter ns fun prev => extend (prev.getD Table.empty) es
  { messages := addTo s.messages messages,
    sourceKeys := match sources with
      | some m => addTo s.sourceKeys m
      | none => s.sourceKeys }

/-- whether a locale has messages -/
def hasLocale (s : Store) (l : Locale) : Bool := s.messages.contains l.tag

/-- the locales with messages, in order -/
def locales (s : Store) : List Locale := s.messages.keys.map Locale.mk

/-- the namespaces of a locale, in order -/
def namespaces (s : Store) (l : Locale) : List String :=
  ((s.messages.get? l.tag).map Table.keys).getD []

def namespaceMessages (s : Store) (l : Locale) (ns : String) : Option Entries :=
  (s.messages.get? l.tag).bind (·.get? ns)

/-- the keys of a namespace of a locale, in order -/
def keys (s : Store) (l : Locale) (ns : String) : List String :=
  ((s.namespaceMessages l ns).map Table.keys).getD []

/-- the template of a key -/
def message (s : Store) (l : Locale) (ns key : String) : Option String :=
  (s.namespaceMessages l ns).bind (·.get? key)

/-- the key recorded for a source text -/
def metaKey (s : Store) (l : Locale) (ns source : String) : Option String :=
  ((s.sourceKeys.get? l.tag).bind (·.get? ns)).bind (·.get? source)

/-- the number of messages -/
def size (s : Store) : Nat :=
  s.messages.values.foldl (fun n nss => nss.values.foldl (fun m t => m + t.size) n) 0

def isEmpty (s : Store) : Bool := s.size == 0

theorem message_insertMessage (s : Store) (l : Locale) (ns key t : String) :
    (s.insertMessage l ns key t).message l ns key = some t := by
  simp [insertMessage, message, namespaceMessages, setIn, Table.alter]

end Store

end Phrasebook
