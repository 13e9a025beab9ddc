import Phrasebook.Toml.Cursor

/-!
# Reading TOML: blanks, comments, strings and keys

The pieces of TOML text below the level of values:

* `newline`, `lineEnding`, `lineTrailing`  line breaks (`LF` or `CR LF`), a break or the end,
                    and what may follow a value or a table header on its line;
* `wsCommentNewline` blanks, comments and line breaks between the items of an array;
* `basicString`, `literalString`, `mlBasicString`, `mlLiteralString` and `string`  the four
                    kinds of string, with their escapes;
* `simpleKey`, `key`  one key, and a dotted key with the byte span of each part.

## Termination

The loops over the characters of a string or of the blanks between array items take a fuel
argument; every turn reads at least one character, so the length of the text plus one is
always enough.
-/

namespace Phrasebook.Toml

def isWs (c : Char) : Bool := c == ' ' || c == '\t'

def isNonEol (c : Char) : Bool :=
  let n := c.toNat
  n == 0x09 || (0x20 ≤ n && n ≤ 0x7E) || 0x80 ≤ n

def isBasicUnescaped (c : Char) : Bool :=
  let n := c.toNat
  isWs c || n == 0x21 || (0x23 ≤ n && n ≤ 0x5B) || (0x5D ≤ n && n ≤ 0x7E) || 0x80 ≤ n

def isLiteralChar (c : Char) : Bool :=
  let n := c.toNat
  n == 0x09 || (0x20 ≤ n && n ≤ 0x26) || (0x28 ≤ n && n ≤ 0x7E) || 0x80 ≤ n

def isBareKeyChar (c : Char) : Bool := c.isAlphanum || c == '-' || c == '_'

def isHexDigit (c : Char) : Bool :=
  c.isDigit || ('a' ≤ c && c ≤ 'f') || ('A' ≤ c && c ≤ 'F')

def hexValue (c : Char) : Nat :=
  if c.isDigit then c.toNat - '0'.toNat
  else if 'a' ≤ c && c ≤ 'f' then c.toNat - 'a'.toNat + 10
  else c.toNat - 'A'.toNat + 10

def Cursor.skipWs (cur : Cursor) : Cursor := (cur.takeWhile isWs).2

/-- a line break: `LF` or `CR LF`. A lone `CR` fails after itself. -/
def newline (cur : Cursor) : Step Unit :=
  match cur.rest with
  | '\n' :: r => .ok ((), cur.past '\n' r)
  | '\r' :: '\n' :: r => .ok ((), ⟨r, cur.offset + 2⟩)
  | '\r' :: r => .error (Cursor.soft ⟨r, cur.offset + 1⟩)
  | _ => .error cur.soft

def comment (cur : Cursor) : Step Unit :=
  match cur.rest with
  | '#' :: r => .ok ((), ((cur.past '#' r).takeWhile isNonEol).2)
  | _ => .error cur.soft

/-- a line break or the end of the text -/
def lineEnding (cur : Cursor) : Step Unit :=
  match newline cur with
  | .ok r => .ok r
  | .error _ => if cur.atEnd then .ok ((), cur) else .error cur.soft

/-- blanks, an optional comment and the end of the line -/
def lineTrailing (cur : Cursor) : Step Unit :=
  let c1 := cur.skipWs
  let c2 := match comment c1 with
    | .ok (_, c) => c
    | .error _ => c1
  lineEnding c2

/-- blanks, comments and line breaks, as between the items of an array. A comment must end
with a line break there. -/
def wsCommentNewline : Nat → Cursor → Step Unit
  | 0, cur => .ok ((), cur)
  | fuel + 1, cur =>
    let c1 := cur.skipWs
    match c1.rest with
    | '#' :: _ =>
      (comment c1).andThen fun _ c2 =>
        (newline c2).andThen fun _ c3 => wsCommentNewline fuel c3
    | '\n' :: _ | '\r' :: _ =>
      (newline c1).andThen fun _ c2 => wsCommentNewline fuel c2
    | _ => .ok ((), c1)

def escapeExpected : List Context :=
  [.label "escape sequence"] ++
    (["`b`", "`f`", "`n`", "`r`", "`t`", "`u`", "`U`", "`\\`", "`\"`"].map Context.expected)

def hexEscape (n : Nat) (what : String) (cur : Cursor) : Step Char :=
  let digits := (cur.takeWhile isHexDigit).1.take n
  if digits.length < n then .error (cur.hard [.label what])
  else
    let v := digits.foldl (fun acc d => acc * 16 + hexValue d) 0
    if v < 0xD800 || (0xDFFF < v && v < 0x110000) then .ok (Char.ofNat v, cur.skip digits)
    else .error (.hard ⟨cur.offset, [.label what], some "value is out of range"⟩)

def escapeSeq (cur : Cursor) : Step Char :=
  match cur.rest with
  | [] => .error cur.soft
  | c :: r =>
    let next := cur.past c r
    match c with
    | 'b' => .ok ('\x08', next)
    | 'f' => .ok ('\x0c', next)
    | 'n' => .ok ('\n', next)
    | 'r' => .ok ('\r', next)
    | 't' => .ok ('\t', next)
    | '\\' => .ok ('\\', next)
    | '"' => .ok ('"', next)
    | 'u' => hexEscape 4 "unicode 4-digit hex code" next
    | 'U' => hexEscape 8 "unicode 8-digit hex code" next
    | _ => .error (.hard ⟨cur.offset + 1, escapeExpected, none⟩)

def escaped (cur : Cursor) : Step Char :=
  match cur.rest with
  | '\\' :: r => escapeSeq (cur.past '\\' r)
  | _ => .error cur.soft

def basicBody : Nat → List Char → Cursor → Step (List Char)
  | 0, acc, cur => .ok (acc.reverse, cur)
  | fuel + 1, acc, cur =>
    match cur.rest with
    | c :: r =>
      if isBasicUnescaped c then basicBody fuel (c :: acc) (cur.past c r)
      else if c == '\\' then
        match escaped cur with
        | .ok (e, next) => basicBody fuel (e :: acc) next
        | .error (.hard f) => .error (.hard f)
        | .error (.soft _) => .ok (acc.reverse, cur)
      else .ok (acc.reverse, cur)
    | [] => .ok (acc.reverse, cur)

/-- a basic string: `"…"` with escapes -/
def basicString (cur : Cursor) : Step String :=
  match cur.rest with
  | '"' :: r =>
    (basicBody (r.length + 1) [] (cur.past '"' r)).andThen fun cs c1 =>
      match c1.rest with
      | '"' :: r' => .ok (String.ofList cs, c1.past '"' r')
      | _ => .error (c1.hard [.label "basic string"])
  | _ => .error cur.soft

/-- a literal string: `'…'`, taken as written -/
def literalString (cur : Cursor) : Step String :=
  match cur.rest with
  | '\'' :: r =>
    let (cs, c1) := (cur.past '\'' r).takeWhile isLiteralChar
    match c1.rest with
    | '\'' :: r' => .ok (String.ofList cs, c1.past '\'' r')
    | _ => .error (c1.hard [.label "literal string"])
  | _ => .error cur.soft

def quotes (q : Char) (follow : Cursor → Bool) (cur : Cursor) : Option (List Char × Cursor) :=
  if cur.startsWith [q, q] && follow (cur.skip [q, q]) then some ([q, q], cur.skip [q, q])
  else if cur.startsWith [q] && follow (cur.skip [q]) then some ([q], cur.skip [q])
  else none

def otherThan (q : Char) (cur : Cursor) : Bool :=
  match cur.rest with
  | c :: _ => c != q
  | [] => false

def skipWsNewlines : Nat → Cursor → Cursor
  | 0, cur => cur
  | fuel + 1, cur =>
    let c1 := cur.skipWs
    match newline c1 with
    | .ok (_, c2) => skipWsNewlines fuel c2
    | .error _ => c1

def mlbContent (cur : Cursor) : Step (List Char) :=
  let (plain, c1) := cur.takeWhile isBasicUnescaped
  if !plain.isEmpty then .ok (plain, c1)
  else
    match cur.rest with
    | '\\' :: r =>
      match newline (cur.past '\\' r).skipWs with
      | .ok (_, c3) => .ok ([], skipWsNewlines (c3.rest.length + 1) c3)
      | .error _ =>
        match escaped cur with
        | .ok (e, c4) => .ok ([e], c4)
        | .error e => .error e
    | _ =>
      match newline cur with
      | .ok (_, c2) => .ok (['\n'], c2)
      | .error e => .error e

def mlbContents : Nat → List Char → Cursor → Step (List Char)
  | 0, acc, cur => .ok (acc, cur)
  | fuel + 1, acc, cur =>
    match mlbContent cur with
    | .ok (piece, next) => mlbContents fuel (acc ++ piece) next
    | .error (.hard f) => .error (.hard f)
    | .error (.soft _) => .ok (acc, cur)

def mlbQuoted : Nat → List Char → Cursor → Step (List Char)
  | 0, acc, cur => .ok (acc, cur)
  | fuel + 1, acc, cur =>
    match quotes '"' (otherThan '"') cur with
    | some (q, c1) =>
      match mlbContent c1 with
      | .ok _ =>
        (mlbContents (c1.rest.length + 1) [] c1).andThen fun more c2 =>
          mlbQuoted fuel (acc ++ q ++ more) c2
      | .error (.hard f) => .error (.hard f)
      | .error (.soft _) => .ok (acc, c1)
    | none => .ok (acc, cur)

/-- a multi-line basic string: `"""…"""`, a line break right after the opening dropped -/
def mlBasicString (cur : Cursor) : Step String :=
  if !cur.startsWith ['"', '"', '"'] then .error cur.soft
  else
    let c0 := cur.skip ['"', '"', '"']
    let c1 := match newline c0 with
      | .ok (_, c) => c
      | .error _ => c0
    let body : Step (List Char) :=
      (mlbContents (c1.rest.length + 1) [] c1).andThen fun a c2 =>
        (mlbQuoted (c2.rest.length + 1) [] c2).andThen fun b c3 =>
          match quotes '"' (fun c => c.startsWith ['"', '"', '"']) c3 with
          | some (q, c4) => .ok (a ++ b ++ q, c4)
          | none => .ok (a ++ b, c3)
    match body with
    | .error e => .error (e.within (.label "multiline basic string"))
    | .ok (cs, c5) =>
      if c5.startsWith ['"', '"', '"'] then .ok (String.ofList cs, c5.skip ['"', '"', '"'])
      else .error (c5.hard [.label "multiline basic string"])

def mllContent (cur : Cursor) : Option (Char × Cursor) :=
  match cur.rest with
  | c :: r => if isLiteralChar c then some (c, cur.past c r)
    else match newline cur with
      | .ok (_, c2) => some ('\n', c2)
      | .error _ => none
  | [] => none

def mllContents : Nat → List Char → Cursor → List Char × Cursor
  | 0, acc, cur => (acc, cur)
  | fuel + 1, acc, cur =>
    match mllContent cur with
    | some (c, next) => mllContents fuel (acc ++ [c]) next
    | none => (acc, cur)

def mllQuoted : Nat → List Char → Cursor → List Char × Cursor
  | 0, acc, cur => (acc, cur)
  | fuel + 1, acc, cur =>
    match quotes '\'' (otherThan '\'') cur with
    | some (q, c1) =>
      match mllContent c1 with
      | some _ =>
        let (more, c2) := mllContents (c1.rest.length + 1) [] c1
        mllQuoted fuel (acc ++ q ++ more) c2
      | none => (acc, cur)
    | none => (acc, cur)

/-- a multi-line literal string: `'''…'''`, a line break right after the opening dropped -/
def mlLiteralString (cur : Cursor) : Step String :=
  if !cur.startsWith ['\'', '\'', '\''] then .error cur.soft
  else
    let c0 := cur.skip ['\'', '\'', '\'']
    let c1 := match newline c0 with
      | .ok (_, c) => c
      | .error _ => c0
    let (a, c2) := mllContents (c1.rest.length + 1) [] c1
    let (b, c3) := mllQuoted (c2.rest.length + 1) [] c2
    let (q, c4) := match quotes '\'' (fun c => c.startsWith ['\'', '\'', '\'']) c3 with
      | some r => r
      | none => ([], c3)
    if c4.startsWith ['\'', '\'', '\''] then
      .ok (String.ofList (a ++ b ++ q), c4.skip ['\'', '\'', '\''])
    else .error (c4.hard [.label "multiline literal string"])

/-- a string of any of the four kinds -/
def string (cur : Cursor) : Step String :=
  match mlBasicString cur with
  | .error (.soft _) =>
    match basicString cur with
    | .error (.soft _) =>
      match mlLiteralString cur with
      | .error (.soft _) => literalString cur
      | r => r
    | r => r
  | r => r

/-- a byte span: where something starts and where it ends -/
abbrev Span := Nat × Nat

/-- one part of a key: a quoted string or a bare key, with its span -/
def simpleKey (cur : Cursor) : Step (String × Span) :=
  let withSpan : Step String → Step (String × Span)
    | .ok (s, c) => .ok ((s, (cur.offset, c.offset)), c)
    | .error e => .error e
  match cur.rest with
  | '"' :: _ => withSpan (basicString cur)
  | '\'' :: _ => withSpan (literalString cur)
  | _ =>
    let (cs, c1) := cur.takeWhile isBareKeyChar
    if cs.isEmpty then .error cur.soft else .ok ((String.ofList cs, (cur.offset, c1.offset)), c1)

def keyPart (cur : Cursor) : Step (String × Span) :=
  (simpleKey cur.skipWs).andThen fun k c1 => .ok (k, c1.skipWs)

def keyParts : Nat → List (String × Span) → Cursor → Step (List (String × Span))
  | 0, acc, cur => .ok (acc, cur)
  | fuel + 1, acc, cur =>
    match cur.rest with
    | '.' :: r =>
      match keyPart (cur.past '.' r) with
      | .ok (k, c1) => keyParts fuel (acc ++ [k]) c1
      | .error (.hard f) => .error (.hard f)
      | .error (.soft _) => .ok (acc, cur)
    | _ => .ok (acc, cur)

def nestingLimit : Nat := 80

def Cursor.tooDeep (cur : Cursor) : Fault := ⟨cur.offset, [], some "recursion limit exceeded"⟩

/-- a key: one or more parts separated by dots, fewer than `nestingLimit` of them. Too many
parts fail softly at the start of the key, without naming the key as what was being read. -/
def key (cur : Cursor) : Step (List (String × Span)) :=
  let parts : Step (List (String × Span)) :=
    (keyPart cur).andThen fun first c1 => keyParts (c1.rest.length + 1) [first] c1
  match parts with
  | .error e => .error (e.within (.label "key"))
  | .ok (ps, c) => if ps.length < nestingLimit then .ok (ps, c) else .error (.soft cur.tooDeep)

end Phrasebook.Toml
