import Mathlib
import Phrasebook.Catalog.Store

/-!
# The flat store

A store seen as four flat finite objects: templates by locale, namespace and key; source keys
by locale, namespace and source text; the locales with messages; and the namespaces each of
them has. The changes a store takes are given here both on the store and on the flat store,
with `Store.run` and `FlatStore.run` for a sequence of them.
-/

namespace Phrasebook

/-- the store seen flat: templates and source keys by locale, namespace and key, the locales
with messages, and the namespaces each of them has -/
structure FlatStore where
  messages : Finmap (fun _ : Locale × String × String => String)
  sourceKeys : Finmap (fun _ : Locale × String × String => String)
  locales : Finset Locale
  namespaces : Finset (Locale × String)

namespace FlatStore

def empty : FlatStore := ⟨∅, ∅, ∅, ∅⟩

def entriesAt (l : Locale) (ns : String) (es : Entries) :
    Finmap (fun _ : Locale × String × String => String) :=
  es.entries.foldl (fun m e => m.insert (l, ns, e.1) e.2) ∅

def insertMessage (F : FlatStore) (l : Locale) (ns key template : String) : FlatStore where
  messages := F.messages.insert (l, ns, key) template
  sourceKeys := F.sourceKeys
  locales := insert l F.locales
  namespaces := insert (l, ns) F.namespaces

def insertMeta (F : FlatStore) (l : Locale) (ns source key : String) : FlatStore :=
  { F with sourceKeys := F.sourceKeys.insert (l, ns, source) key }

def insertSource (F : FlatStore) (l : Locale) (ns source translation : String) :
    FlatStore × String :=
  ((F.insertMessage l ns (messageKey source) translation).insertMeta l ns source
    (messageKey source), messageKey source)

def mergeNamespace (F : FlatStore) (l : Locale) (ns : String) (messages : Entries)
    (sources : Option Entries) : FlatStore where
  messages := entriesAt l ns messages ∪ F.messages
  sourceKeys := match sources with
    | some m => entriesAt l ns m ∪ F.sourceKeys
    | none => F.sourceKeys
  locales := insert l F.locales
  namespaces := insert (l, ns) F.namespaces

theorem lookup_insert_at (M : Finmap (fun _ : Locale × String × String => String)) (l : Locale)
    (ns key v : String) (l' : Locale) (ns' k' : String) :
    (M.insert (l, ns, key) v).lookup (l', ns', k') =
      if l' = l ∧ ns' = ns ∧ k' = key then some v else M.lookup (l', ns', k') := by
  split_ifs with h
  · obtain ⟨rfl, rfl, rfl⟩ := h
    exact Finmap.lookup_insert _
  · exact Finmap.lookup_insert_of_ne _ (by simpa using h)

theorem foldl_insert_union (l : Locale) (ns : String) (es : List (String × String))
    (A M : Finmap (fun _ : Locale × String × String => String)) :
    es.foldl (fun m e => m.insert (l, ns, e.1) e.2) A ∪ M =
      es.foldl (fun m e => m.insert (l, ns, e.1) e.2) (A ∪ M) := by
  induction es generalizing A with
  | nil => rfl
  | cons e es ih => rw [List.foldl_cons, List.foldl_cons, ih, Finmap.insert_union]

theorem entriesAt_union (l : Locale) (ns : String) (es : Entries)
    (M : Finmap (fun _ : Locale × String × String => String)) :
    entriesAt l ns es ∪ M = es.entries.foldl (fun m e => m.insert (l, ns, e.1) e.2) M := by
  rw [entriesAt, foldl_insert_union, Finmap.empty_union]

end FlatStore

namespace Store

/-- the changes a store takes -/
inductive Op where
  | insertMessage (l : Locale) (ns key template : String)
  | insertMeta (l : Locale) (ns source key : String)
  | insertSource (l : Locale) (ns source translation : String)
  | mergeNamespace (l : Locale) (ns : String) (messages : Entries) (sources : Option Entries)

def perform (s : Store) : Op → Store × Option String
  | .insertMessage l ns key template => (s.insertMessage l ns key template, none)
  | .insertMeta l ns source key => (s.insertMeta l ns source key, none)
  | .insertSource l ns source translation =>
    ((s.insertSource l ns source translation).1, some (s.insertSource l ns source translation).2)
  | .mergeNamespace l ns messages sources => (s.mergeNamespace l ns messages sources, none)

/-- the store after a sequence of changes -/
def run (s : Store) : List Op → Store
  | [] => s
  | op :: ops => (s.perform op).1.run ops

end Store

namespace FlatStore

def perform (F : FlatStore) : Store.Op → FlatStore × Option String
  | .insertMessage l ns key template => (F.insertMessage l ns key template, none)
  | .insertMeta l ns source key => (F.insertMeta l ns source key, none)
  | .insertSource l ns source translation =>
    ((F.insertSource l ns source translation).1, some (F.insertSource l ns source translation).2)
  | .mergeNamespace l ns messages sources => (F.mergeNamespace l ns messages sources, none)

/-- the flat store after a sequence of changes -/
def run (F : FlatStore) : List Store.Op → FlatStore
  | [] => F
  | op :: ops => (F.perform op).1.run ops

end FlatStore

end Phrasebook
