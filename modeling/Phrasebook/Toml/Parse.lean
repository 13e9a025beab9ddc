import Phrasebook.Toml.Number
import Phrasebook.Toml.Tree

/-!
# Reading TOML documents

* `value`        a value: a string, number, date, truth value, array or inline table;
* `keyval`       a `key = value` line of the document;
* `tableHeader`  a `[table]` or `[[array of tables]]` header line;
* `readDocument` a whole document, as the entries of its top table, or the first `Fault`, or
                 a `Clash` found once every table is closed.

Values are read by a mutual recursion through arrays and inline tables. It takes a fuel
argument that every call spends one of: a turn through an array or inline table reads at
least its bracket or separator, so eight times the length of the text (plus a margin) is more
than any text needs.

Nesting is bounded: a value inside `nestingLimit - 1` arrays and inline tables may not open
another, and a key may have fewer than `nestingLimit` parts.
-/

namespace Phrasebook.Toml

def stringContexts : List Context := [.label "string", .expected "`\"`", .expected "`'`"]

def Step.within {α : Type} (ctxs : List Context) : Step α → Step α
  | .error e => .error (e.withinAll ctxs)
  | ok => ok

def Step.harden {α : Type} : Step α → Step α
  | .error e => .error e.harden
  | ok => ok

def atomStep {α : Type} (start : Nat) (mk : α → Atom) : Step α → Step Node
  | .ok (a, c) => .ok (.atom (mk a) (start, c.offset), c)
  | .error e => .error e

def numberLike (cur : Cursor) : Step Node :=
  match dateTime cur with
  | .ok (_, c1) => .ok (.atom .datetime (cur.offset, c1.offset), c1)
  | .error (.hard f) => .error (.hard f)
  | .error (.soft _) =>
    match float cur with
    | .ok (x, c1) => .ok (.atom (.float x) (cur.offset, c1.offset), c1)
    | .error (.hard f) => .error (.hard f)
    | .error (.soft _) => atomStep cur.offset Atom.integer (integer cur)

def atomValue (cur : Cursor) (c : Char) : Step Node :=
  let start := cur.offset
  if c == '"' || c == '\'' then atomStep start Atom.string (string cur)
  else if c == '+' || c == '-' || c.isDigit then numberLike cur
  else if c == '_' then (atomStep start Atom.integer (integer cur)).within [.expected "leading digit"]
  else if c == '.' then (atomStep start Atom.float (float cur)).within [.expected "leading digit"]
  else if c == 't' then
    (atomStep start (fun _ => Atom.boolean true) (word ['t', 'r', 'u', 'e'] cur)).within stringContexts
  else if c == 'f' then
    (atomStep start (fun _ => Atom.boolean false) (word ['f', 'a', 'l', 's', 'e'] cur)).within stringContexts
  else if c == 'i' then
    let r : Step Float := if cur.startsWith ['i', 'n', 'f'] then .ok (positiveInfinity, cur.skip ['i', 'n', 'f'])
      else .error cur.soft
    (atomStep start Atom.float r).within stringContexts
  else if c == 'n' then
    let r : Step Float := if cur.startsWith ['n', 'a', 'n'] then .ok (notANumber false, cur.skip ['n', 'a', 'n'])
      else .error cur.soft
    (atomStep start Atom.float r).within stringContexts
  else .error (cur.soft stringContexts)

mutual

/-- a value inside `depth` arrays and inline tables; one more would reach `nestingLimit`
is refused at its opening bracket -/
def value : Nat → Nat → Cursor → Step Node
  | 0, _, cur => .error cur.hard
  | fuel + 1, depth, cur =>
    match cur.rest with
    | [] => .error cur.soft
    | '[' :: r =>
      if depth + 1 < nestingLimit then array fuel (depth + 1) cur (cur.past '[' r)
      else .error (.hard cur.tooDeep)
    | '{' :: r =>
      if depth + 1 < nestingLimit then inlineTable fuel (depth + 1) cur (cur.past '{' r)
      else .error (.hard cur.tooDeep)
    | c :: _ => atomValue cur c

/-- an array, the opening bracket read: items separated by commas, a trailing comma allowed,
with blanks, comments and line breaks anywhere between -/
def array : Nat → Nat → Cursor → Cursor → Step Node
  | 0, _, _, cur => .error cur.hard
  | fuel + 1, depth, start, cur =>
    match arrayValues fuel depth cur with
    | .error e => .error e.harden
    | .ok (items, c1) =>
      match c1.rest with
      | ']' :: r => .ok (.array items (start.offset, c1.offset + 1), c1.past ']' r)
      | _ => .error (c1.hard [.label "array", .expected "`]`"])

def arrayValues : Nat → Nat → Cursor → Step (List Node)
  | 0, _, cur => .error cur.hard
  | fuel + 1, depth, cur =>
    if cur.startsWith [']'] then .ok ([], cur)
    else
      let items : Step (List Node) :=
        match arrayValue fuel depth cur with
        | .error (.soft _) => .ok ([], cur)
        | .error (.hard f) => .error (.hard f)
        | .ok (v, c1) =>
          (arrayMore fuel depth [v] c1).andThen fun vs c2 =>
            match c2.rest with
            | ',' :: r => .ok (vs, c2.past ',' r)
            | _ => .ok (vs, c2)
      items.andThen fun vs c3 =>
        (wsCommentNewline (c3.rest.length + 1) c3).andThen fun _ c4 => .ok (vs, c4)

def arrayValue : Nat → Nat → Cursor → Step Node
  | 0, _, cur => .error cur.hard
  | fuel + 1, depth, cur =>
    (wsCommentNewline (cur.rest.length + 1) cur).andThen fun _ c1 =>
      (value fuel depth c1).andThen fun v c2 =>
        (wsCommentNewline (c2.rest.length + 1) c2).andThen fun _ c3 => .ok (v, c3)

def arrayMore : Nat → Nat → List Node → Cursor → Step (List Node)
  | 0, _, acc, cur => .ok (acc, cur)
  | fuel + 1, depth, acc, cur =>
    match cur.rest with
    | ',' :: r =>
      match arrayValue fuel depth (cur.past ',' r) with
      | .ok (v, c1) => arrayMore fuel depth (acc ++ [v]) c1
      | .error (.hard f) => .error (.hard f)
      | .error (.soft _) => .ok (acc, cur)
    | _ => .ok (acc, cur)

def inlineTable : Nat → Nat → Cursor → Cursor → Step Node
  | 0, _, _, cur => .error cur.hard
  | fuel + 1, depth, start, cur =>
    let pairs : Step (List (KeyPath × String × Node)) :=
      match inlineKeyval fuel depth cur with
      | .error (.soft _) => .ok ([], cur)
      | .error (.hard f) => .error (.hard f)
      | .ok (kv, c1) => inlineMore fuel depth [kv] c1
    match pairs with
    | .error e => .error e.harden
    | .ok (kvs, c1) =>
      let c2 := c1.skipWs
      match tableOfPairs [] kvs with
      | .error clash => .error (.hard ⟨cur.offset, [], some clash.text⟩)
      | .ok es =>
        match c2.rest with
        | '}' :: r => .ok (.inline es false (start.offset, c2.offset + 1), c2.past '}' r)
        | _ => .error (c2.hard [.label "inline table", .expected "`\x7d`"])

def inlineKeyval : Nat → Nat → Cursor → Step (KeyPath × String × Node)
  | 0, _, cur => .error cur.hard
  | fuel + 1, depth, cur =>
    (key cur).andThen fun parts c1 =>
      match c1.rest with
      | '=' :: r =>
        match value fuel depth (c1.past '=' r).skipWs with
        | .ok (v, c2) =>
          match parts.getLast? with
          | some (k, _) => .ok ((parts.dropLast, k, v), c2.skipWs)
          | none => .error c2.hard
        | .error e => .error e.harden
      | _ => .error (c1.hard [.expected "`.`", .expected "`=`"])

def inlineMore : Nat → Nat → List (KeyPath × String × Node) → Cursor →
    Step (List (KeyPath × String × Node))
  | 0, _, acc, cur => .ok (acc, cur)
  | fuel + 1, depth, acc, cur =>
    match cur.rest with
    | ',' :: r =>
      match inlineKeyval fuel depth (cur.past ',' r) with
      | .ok (kv, c1) => inlineMore fuel depth (acc ++ [kv]) c1
      | .error (.hard f) => .error (.hard f)
      | .error (.soft _) => .ok (acc, cur)
    | _ => .ok (acc, cur)

end

def Cursor.fuel (cur : Cursor) : Nat := 8 * cur.rest.length + 16

/-- a `key = value` line of the document, added to the table being filled -/
def keyval (b : Builder) (cur : Cursor) : Except Fault (Builder × Cursor) :=
  let read : Step (KeyPath × String × Node) :=
    (key cur).andThen fun parts c1 =>
      match c1.rest with
      | '=' :: r =>
        (value c1.fuel 0 (c1.past '=' r).skipWs).harden.andThen fun v c2 =>
          (lineTrailing c2).within [.expected "newline", .expected "`#`"] |>.harden |>.andThen fun _ c3 =>
            match parts.getLast? with
            | some (k, _) => .ok ((parts.dropLast, k, v), c3)
            | none => .error c3.hard
      | _ => .error (c1.hard [.expected "`.`", .expected "`=`"])
  match read with
  | .error e => .error e.fault
  | .ok ((path, k, v), c1) =>
    match b.onKeyval path k v with
    | .ok b' => .ok (b', c1)
    | .error clash => .error ⟨cur.offset, [], some clash.text⟩

/-- a table header line, `[path]` or `[[path]]`, opening its table -/
def tableHeader (b : Builder) (cur : Cursor) : Except Fault (Builder × Cursor) :=
  let header := [Context.label "table header"]
  let array := cur.startsWith ['[', '[']
  let opening := if array then ['[', '['] else ['[']
  let closing := if array then [']', ']'] else [']']
  let closeText := if array then "`]]`" else "`]`"
  if cur.rest.length < 2 then .error ⟨cur.offset, header, none⟩
  else
    let read : Step (KeyPath × Span) :=
      (key (cur.skip opening)).harden.andThen fun parts c1 =>
        if c1.startsWith closing then
          let c2 := c1.skip closing
          (lineTrailing c2).within [.expected "newline", .expected "`#`"] |>.harden |>.andThen fun _ c3 =>
            .ok ((parts, (cur.offset, c2.offset)), c3)
        else .error (c1.hard [.expected "`.`", .expected closeText])
    match read.within header with
    | .error e => .error e.fault
    | .ok ((path, span), c1) =>
      let opened := if array then b.onArrayHeader path span else b.onStdHeader path span
      match opened with
      | .ok b' => .ok (b', c1)
      | .error clash => .error ⟨cur.offset, header, some clash.text⟩

def documentLines : Nat → Builder → Cursor → Except Fault (Builder × Cursor)
  | 0, b, cur => .ok (b, cur)
  | fuel + 1, b, cur =>
    let next : Except Fault (Option (Builder × Cursor)) :=
      match cur.rest with
      | [] => .ok none
      | '#' :: _ =>
        match (comment cur).andThen fun _ c1 => lineEnding c1 with
        | .ok (_, c1) => .ok (some (b, c1))
        | .error e => .error e.fault
      | '[' :: _ => (tableHeader b cur).map some
      | '\n' :: _ | '\r' :: _ =>
        match newline cur with
        | .ok (_, c1) => .ok (some (b, c1))
        | .error _ => .ok none
      | _ => (keyval b cur).map some
    match next with
    | .error f => .error f
    | .ok none => .ok (b, cur)
    | .ok (some (b', c1)) => documentLines fuel b' c1.skipWs

/-- why a document could not be read: a fault at a place, or a clash found at the end -/
inductive ReadError where
  | fault (f : Fault)
  | clash (c : Clash)

/-- a whole document, as the entries of its top table in the order they were added -/
def readDocument (s : String) : Except ReadError Entries :=
  let c0 := Cursor.start s
  let c1 := if c0.startsWith ['\uFEFF'] then c0.skip ['\uFEFF'] else c0
  let c2 := c1.skipWs
  match documentLines (c2.rest.length + 1) {} c2 with
  | .error f => .error (.fault f)
  | .ok (b, c3) =>
    if !c3.atEnd then .error (.fault ⟨c3.offset, [], none⟩)
    else
      match b.finalize with
      | .ok b' => .ok b'.root
      | .error c => .error (.clash c)

end Phrasebook.Toml
