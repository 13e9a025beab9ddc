import Phrasebook.Toml.Lexeme

/-!
# TOML documents as trees

A document is a table: named entries, each a value, a table or an array of tables. Tables
come from headers (`[a.b]`, `[[a.b]]`) and from dotted keys (`a.b = 1`); the ones only named
on the way to another are implicit.

The rules that make a document well formed are checked as entries are added:

* `Builder.onKeyval`    a key/value line goes into the current table, through the tables its
                        dotted key names; a key may not be given twice, nor a dotted key reach
                        into a table given by a header;
* `Builder.onStdHeader`, `Builder.onArrayHeader`  a header closes the current table and opens
                        another; a table may be opened by one header only, except that an
                        implicit table may be opened once;
* `tableOfPairs`        the same rules inside an inline table.

A broken rule is a `Clash`, worded as `Clash.text`. An array of tables spans from the header of
its first table to the end of its last one.
-/

namespace Phrasebook.Toml

/-- a value that holds no others -/
inductive Atom where
  | string (s : String)
  | integer (i : Int)
  | float (x : Float)
  | boolean (b : Bool)
  | datetime

/-- a part of a document, with the byte span it was read from -/
inductive Node where
  | atom (a : Atom) (span : Span)
  | array (items : List Node) (span : Span)
  | inline (entries : List (String × Node)) (dotted : Bool) (span : Span)
  | table (entries : List (String × Node)) (implicit dotted : Bool) (span : Span)
  | tables (list : List (List (String × Node) × Span)) (span : Span)

/-- the entries of a table, in the order they were added -/
abbrev Entries := List (String × Node)

namespace Node

def span : Node → Span
  | .atom _ s | .array _ s | .inline _ _ s | .table _ _ _ s | .tables _ s => s

def kind : Node → String
  | .atom (.string _) _ => "string"
  | .atom (.integer _) _ => "integer"
  | .atom (.float _) _ => "float"
  | .atom (.boolean _) _ => "boolean"
  | .atom .datetime _ => "datetime"
  | .array _ _ => "array"
  | .inline _ _ _ => "inline table"
  | .table _ _ _ _ => "table"
  | .tables _ _ => "array of tables"

end Node

/-- a broken rule of a document's shape -/
inductive Clash where
  | duplicate (key : String) (table : Option (List String))
  | extendsValue (path : List String) (kind : String)

/-- the wording of a clash -/
def Clash.text : Clash → String
  | .duplicate k none => "duplicate key `" ++ k ++ "`"
  | .duplicate k (some []) => "duplicate key `" ++ k ++ "` in document root"
  | .duplicate k (some p) => "duplicate key `" ++ k ++ "` in table `" ++ ".".intercalate p ++ "`"
  | .extendsValue p kind =>
    "dotted key `" ++ ".".intercalate p ++ "` attempted to extend non-table type (" ++ kind ++ ")"

def needsEscapeCode (c : Char) : Bool :=
  (c.toNat ≤ 0x1F && c != '\t' && c != '\n') || c.toNat == 0x7F

def hex4 (n : Nat) : String :=
  let ds := (Nat.toDigits 16 n).map Char.toUpper
  String.ofList (List.replicate (4 - ds.length) '0' ++ ds)

def basicChar (c : Char) : String :=
  match c with
  | '\x08' => "\\b"
  | '\t' => "\\t"
  | '\n' => "\\n"
  | '\x0C' => "\\f"
  | '\r' => "\\r"
  | '"' => "\\\""
  | '\\' => "\\\\"
  | c => if c.toNat ≤ 0x1F || c.toNat == 0x7F then "\\u" ++ hex4 c.toNat else c.toString

def keyRepr (k : String) : String :=
  let cs := k.toList
  let plain := !cs.any needsEscapeCode && !cs.contains '\n'
  let basic := "\"" ++ String.join (cs.map basicChar) ++ "\""
  if !k.isEmpty && cs.all isBareKeyChar then k
  else if plain && !cs.contains '"' && !cs.contains '\\' then basic
  else if plain && !cs.contains '\'' then "'" ++ k ++ "'"
  else basic

def lookupEntry (es : Entries) (key : String) : Option Node :=
  (es.find? (·.1 == key)).map (·.2)

def replaceEntry (es : Entries) (key : String) (n : Node) : Entries :=
  es.map fun (k, v) => if k == key then (k, n) else (k, v)

def removeEntry (es : Entries) (key : String) : Entries := es.filter (·.1 != key)

/-- a keyed path: the names of the parts of a dotted key and their spans -/
abbrev KeyPath := List (String × Span)

def KeyPath.names (p : KeyPath) : List String := p.map (·.1)

def descend {α : Type} (dottedNew : Bool) (k : Entries → Bool → Except Clash (Entries × α)) :
    Entries → Bool → KeyPath → List String → Except Clash (Entries × α)
  | es, dotted, [], _ => k es dotted
  | es, _, (key, sp) :: rest, seen =>
    let here := seen ++ [key]
    match lookupEntry es key with
    | none => do
      let (inner, a) ← descend dottedNew k [] dottedNew rest here
      pure (es ++ [(key, .table inner true dottedNew sp)], a)
    | some (.table inner imp dot sp') =>
      if dottedNew && !imp then .error (.duplicate key none)
      else do
        let (inner', a) ← descend dottedNew k inner dot rest here
        pure (replaceEntry es key (.table inner' imp dot sp'), a)
    | some (.tables list sp') =>
      match list.getLast? with
      | some (inner, spe) => do
        let (inner', a) ← descend dottedNew k inner false rest here
        pure (replaceEntry es key (.tables (list.dropLast ++ [(inner', spe)]) sp'), a)
      | none => .error (.duplicate key (some seen))
    | some v => .error (.extendsValue here v.kind)

/-- the state of reading a document: the tables closed so far, the table being filled, where
it goes and whether it is an element of an array of tables -/
structure Builder where
  root : Entries := []
  current : Entries := []
  currentSpan : Option Span := none
  path : KeyPath := []
  isArray : Bool := false

namespace Builder

/-- a key/value line: `path` is the dotted part of the key before its last part `key` -/
def onKeyval (b : Builder) (path : KeyPath) (key : String) (v : Node) : Except Clash Builder := do
  let span := b.currentSpan.map fun (s, _) => (s, v.span.2)
  let (current, _) ← descend true (fun es dotted =>
      if dotted == path.isEmpty then .error (.duplicate key none)
      else if (lookupEntry es key).isSome then .error (.duplicate key (some (KeyPath.names b.path)))
      else .ok (es ++ [(key, v)], ())) b.current false path []
  pure { b with current := current, currentSpan := span }

def finalize (b : Builder) : Except Clash Builder :=
  match b.path.getLast?, b.currentSpan with
  | none, _ => .ok { b with root := b.current, current := [], currentSpan := none }
  | some (last, keySpan), span => do
    let parents := b.path.dropLast
    let tableSpan := span.getD keySpan
    let (root, _) ← descend false (fun es _ =>
        match lookupEntry es last with
        | none =>
          if b.isArray then .ok (es ++ [(last, .tables [(b.current, tableSpan)] tableSpan)], ())
          else .ok (es ++ [(last, .table b.current false false tableSpan)], ())
        | some (.tables list _) =>
          if b.isArray then
            let first := (list.head?.map (·.2.1)).getD tableSpan.1
            .ok (replaceEntry es last (.tables (list ++ [(b.current, tableSpan)]) (first, tableSpan.2)), ())
          else .error (.duplicate (keyRepr last) (some (KeyPath.names parents)))
        | some _ => .error (.duplicate (keyRepr last) (some (KeyPath.names parents)))) b.root false parents []
    pure { root := root }

/-- a `[path]` header spanning `span` -/
def onStdHeader (b : Builder) (path : KeyPath) (span : Span) : Except Clash Builder := do
  let b ← b.finalize
  match path.getLast? with
  | none => pure b
  | some (last, _) =>
    let parents := path.dropLast
    let (root, taken) ← descend false (fun es _ =>
        match lookupEntry es last with
        | none => .ok (es, [])
        | some (.table inner imp dot _) =>
          if imp && !dot then .ok (removeEntry es last, inner)
          else .error (.duplicate (keyRepr last) (some (KeyPath.names parents)))
        | some _ => .error (.duplicate (keyRepr last) (some (KeyPath.names parents)))) b.root false parents []
    pure { root := root, current := taken, currentSpan := some span, path := path, isArray := false }

/-- a `[[path]]` header spanning `span` -/
def onArrayHeader (b : Builder) (path : KeyPath) (span : Span) : Except Clash Builder := do
  let b ← b.finalize
  match path.getLast? with
  | none => pure b
  | some (last, _) =>
    let parents := path.dropLast
    let (root, _) ← descend false (fun es _ =>
        match lookupEntry es last with
        | none => .ok (es ++ [(last, .tables [] span)], ())
        | some (.tables _ _) => .ok (es, ())
        | some _ => .error (.duplicate (keyRepr last) (some (KeyPath.names parents)))) b.root false parents []
    pure { root := root, current := [], currentSpan := some span, path := path, isArray := true }

end Builder

def descendInline {α : Type} (k : Entries → Bool → Except Clash (Entries × α)) :
    Entries → Bool → KeyPath → List String → Except Clash (Entries × α)
  | es, dotted, [], _ => k es dotted
  | es, _, (key, sp) :: rest, seen =>
    let here := seen ++ [key]
    match lookupEntry es key with
    | none => do
      let (inner, a) ← descendInline k [] true rest here
      pure (es ++ [(key, .inline inner true sp)], a)
    | some (.inline inner dot sp') => do
      let (inner', a) ← descendInline k inner dot rest here
      pure (replaceEntry es key (.inline inner' dot sp'), a)
    | some v => .error (.extendsValue here v.kind)

/-- the inline table of key/value pairs, each with the dotted part of its key -/
def tableOfPairs : Entries → List (KeyPath × String × Node) → Except Clash Entries
  | es, [] => .ok es
  | es, (path, key, v) :: rest => do
    let (es', _) ← descendInline (fun inner dotted =>
        if dotted == path.isEmpty then .error (.duplicate key none)
        else if (lookupEntry inner key).isSome then .error (.duplicate key none)
        else .ok (inner ++ [(key, v)], ())) es false path []
    tableOfPairs es' rest

end Phrasebook.Toml
