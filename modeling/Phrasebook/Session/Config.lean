import Phrasebook.Json.Typed
import Phrasebook.Catalog.Store

/-!
# Session configuration

A configuration names the current locale, the messages, optionally the source keys (meta), a
fallback locale and a default namespace. It is read from a JSON object whose fields are
`locale`, `messages`, `meta`, `fallbackLocale` (or `fallback_locale`) and `defaultNamespace`
(or `default_namespace`); other fields are skipped, `null` stands for a missing field, and a
field given twice is an error. It may also be a JSON array of the fields in that order, of which
the first two must be present.

`Config.ofJson` reads the text; its faults carry the line and column where they were found.
-/

namespace Phrasebook

/-- a session configuration -/
structure Config where
  locale : Option String := none
  messages : Option RawEntries := none
  sourceKeys : Option RawEntries := none
  fallbackLocale : Option String := none
  defaultNamespace : Option String := none

namespace Config

def withLocale (locale : String) : Config := { locale := some locale }

def setMessages (c : Config) (m : RawEntries) : Config := { c with messages := some m }

def setSourceKeys (c : Config) (m : RawEntries) : Config := { c with sourceKeys := some m }

def setFallback (c : Config) (l : String) : Config := { c with fallbackLocale := some l }

def setDefaultNamespace (c : Config) (ns : String) : Config := { c with defaultNamespace := some ns }

open Json

def readRawEntries (c : Cursor) : Except Fault (RawEntries × Cursor) :=
  readTable (readTable (readTable readText)) c

/-- the fields of a configuration -/
inductive Field where
  | locale | messages | sourceKeys | fallbackLocale | defaultNamespace | other
  deriving DecidableEq

def Field.ofKey : String → Field
  | "locale" => .locale
  | "messages" => .messages
  | "meta" => .sourceKeys
  | "fallbackLocale" | "fallback_locale" => .fallbackLocale
  | "defaultNamespace" | "default_namespace" => .defaultNamespace
  | _ => .other

def Field.name : Field → String
  | .locale => "locale"
  | .messages => "messages"
  | .sourceKeys => "meta"
  | .fallbackLocale => "fallbackLocale"
  | .defaultNamespace => "defaultNamespace"
  | .other => ""

/-- a configuration being read, with the fields seen so far -/
structure Partial where
  config : Config := {}
  seen : List Field := []

/-- a fault, or a problem whose place is decided by the caller -/
inductive Failure where
  | placed (f : Fault)
  | unplaced (p : Problem) (c : Cursor)

def readField (p : Partial) (field : Field) (c : Cursor) : Except Fault (Partial × Cursor) :=
  let seen := field :: p.seen
  match field with
  | .locale => (readNullable readText c).map fun (v, c) => ({ config := { p.config with locale := v }, seen }, c)
  | .messages => (readNullable readRawEntries c).map fun (v, c) =>
      ({ config := { p.config with messages := v }, seen }, c)
  | .sourceKeys => (readNullable readRawEntries c).map fun (v, c) =>
      ({ config := { p.config with sourceKeys := v }, seen }, c)
  | .fallbackLocale => (readNullable readText c).map fun (v, c) =>
      ({ config := { p.config with fallbackLocale := v }, seen }, c)
  | .defaultNamespace => (readNullable readText c).map fun (v, c) =>
      ({ config := { p.config with defaultNamespace := v }, seen }, c)
  | .other => (skipValue c).map fun c => (p, c)

def readFields (first : Bool) (p : Partial) (c : Cursor) : Nat → Except Failure (Config × Cursor)
  | 0 => .error (.placed (c.fault .eofObject))
  | fuel + 1 =>
    match nextKey first c with
    | .error f => .error (.placed f)
    | .ok none => .ok (p.config, c)
    | .ok (some (k, ck)) =>
      let field := Field.ofKey k
      if field != .other && p.seen.contains field then
        .error (.unplaced (.duplicateField field.name) ck)
      else
        match readColon ck with
        | .error f => .error (.placed f)
        | .ok cv =>
          match readField p field cv with
          | .error f => .error (.placed f)
          | .ok (p', c') => readFields false p' c' fuel

def nextElement (first : Bool) (c : Cursor) : Except Fault (Option Cursor) :=
  let c := c.skipSpace
  match c.rest with
  | ']' :: _ => .ok none
  | [] => .error (c.peekFault .eofList)
  | ',' :: rest =>
    if first then .ok (some c)
    else
      let c1 := (c.step ',' rest).skipSpace
      match c1.rest with
      | ']' :: _ => .error (c1.peekFault .trailingComma)
      | [] => .error (c1.peekFault .eofValue)
      | _ => .ok (some c1)
  | _ => if first then .ok (some c) else .error (c.peekFault .expectedListCommaOrEnd)

def arrayShape : String := "struct I18nConfig with 5 elements"

def readElements (c : Cursor) : Except Failure (Config × Cursor) := do
  let el {α : Type} (first : Bool) (c : Cursor) (r : Cursor → Except Fault (α × Cursor)) :
      Except Failure (Option α × Cursor) :=
    match nextElement first c with
    | .error f => .error (.placed f)
    | .ok none => .ok (none, c)
    | .ok (some c') =>
      match r c' with
      | .error f => .error (.placed f)
      | .ok (a, c'') => .ok (some a, c'')
  let (locale, c) ← el true c (readNullable readText)
  let some locale := locale | throw (.unplaced (.invalidLength 0 arrayShape) c)
  let (messages, c) ← el false c (readNullable readRawEntries)
  let some messages := messages | throw (.unplaced (.invalidLength 1 arrayShape) c)
  let (sourceKeys, c) ← el false c (readNullable readRawEntries)
  let (fallbackLocale, c) ← el false c (readNullable readText)
  let (defaultNamespace, c) ← el false c (readNullable readText)
  pure (⟨locale, messages, sourceKeys.getD none, fallbackLocale.getD none,
    defaultNamespace.getD none⟩, c)

def closeObject (c : Cursor) : Except Fault Cursor :=
  let c := c.skipSpace
  match c.rest with
  | '}' :: rest => .ok (c.step '}' rest)
  | ',' :: _ => .error (c.peekFault .trailingComma)
  | [] => .error (c.peekFault .eofObject)
  | _ => .error (c.peekFault .trailingCharacters)

def closeArray (c : Cursor) : Except Fault Cursor × Cursor :=
  let c := c.skipSpace
  match c.rest with
  | ']' :: rest => let c' := c.step ']' rest; (.ok c', c')
  | ',' :: rest =>
    let c1 := (c.step ',' rest).skipSpace
    match c1.rest with
    | ']' :: _ => (.error (c1.peekFault .trailingComma), c1)
    | _ => (.error (c1.peekFault .trailingCharacters), c1)
  | [] => (.error (c.peekFault .eofList), c)
  | _ => (.error (c.peekFault .trailingCharacters), c)

def ofJsonText (s : String) : Except Fault Config := do
  let c := (Cursor.start s).skipSpace
  let (config, c) ← match c.rest with
    | [] => throw (c.peekFault .eofValue)
    | '{' :: rest =>
      let c1 := c.step '{' rest
      match readFields true {} c1 (c1.rest.length + 1) with
      | .ok (config, c2) => do
        let c3 ← closeObject c2
        pure (config, c3)
      | .error (.placed f) => throw f
      | .error (.unplaced p c2) =>
        let c3 := c2.skipSpace
        let c4 := match c3.rest with
          | '}' :: rest => c3.step '}' rest
          | _ => c3
        throw (c4.fault p)
    | '[' :: rest =>
      let c1 := c.step '[' rest
      match readElements c1 with
      | .ok (config, c2) =>
        match (closeArray c2).1 with
        | .ok c3 => pure (config, c3)
        | .error f => throw f
      | .error (.placed f) => throw f
      | .error (.unplaced p c2) => throw ((closeArray c2).2.fault p)
    | _ => throw (wrongType c "struct I18nConfig")
  let c := c.skipSpace
  match c.rest with
  | [] => pure config
  | _ => throw (c.peekFault .trailingCharacters)

/-- reads a configuration from JSON text; a fault is a configuration error -/
def ofJson (s : String) : Except TranslationError Config :=
  match ofJsonText s with
  | .ok c => .ok c
  | .error f => .error (.config f.message)

end Config

end Phrasebook
