import Phrasebook.Catalog.Store

/-!
# Resolving lookups

A lookup is a source text or a key. In one locale it finds the message stored under the key
recorded for it as a source text, if that message exists, and otherwise the message stored
under the lookup itself. `resolve` tries the current locale, then the fallback; when both miss,
the lookup itself is the template.
-/

namespace Phrasebook

/-- the outcome of a lookup: the template, whether it was found, and where -/
structure Resolution where
  template : String
  found : Bool
  locale : Option Locale

namespace Store

def resolveIn (s : Store) (l : Locale) (lookup ns : String) : Option String :=
  match (s.metaKey l ns lookup).bind (s.message l ns ·) with
  | some t => some t
  | none => s.message l ns lookup

/-- resolves a lookup in the current locale, then the fallback -/
def resolve (s : Store) (current : Locale) (fallback : Option Locale) (lookup ns : String) :
    Resolution :=
  match s.resolveIn current lookup ns with
  | some t => ⟨t, true, some current⟩
  | none =>
    match fallback.bind fun f => (s.resolveIn f lookup ns).map (·, f) with
    | some (t, f) => ⟨t, true, some f⟩
    | none => ⟨lookup, false, none⟩

theorem resolve_miss (s : Store) (current : Locale) (lookup ns : String)
    (h : s.resolveIn current lookup ns = none) :
    s.resolve current none lookup ns = ⟨lookup, false, none⟩ := by
  simp [resolve, h]

end Store

end Phrasebook
