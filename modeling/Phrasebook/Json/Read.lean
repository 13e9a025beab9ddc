import Phrasebook.Json.Value
import Phrasebook.Decimal.Layout
import Phrasebook.Text.Quoted

/-!
# Reading JSON

A reader for JSON text that reports the first fault with its line and column. The column counts
the bytes read on the current line. A fault found on reading a character is placed after it; a
fault found by looking at the next character without reading it is placed after that character
too, or at the end of the text.

Nesting is limited to 127 open arrays and objects; the 128th is refused.

The main definitions are `Problem` (what went wrong, with `Problem.text`), `Fault` (a problem at
a place, with `Fault.message`) and `Value.read`.
-/

set_option linter.unusedVariables false

namespace Phrasebook.Json

/-- what a reader found where it expected something else -/
inductive Unexpected where
  | null
  | bool (b : Bool)
  | unsigned (n : Nat)
  | signed (i : Int)
  | double (x : Float)
  | string (s : String)
  | sequence
  | map

/-- the faults of JSON text, and of reading a value as a given shape -/
inductive Problem where
  | eofList
  | eofObject
  | eofString
  | eofValue
  | expectedColon
  | expectedListCommaOrEnd
  | expectedObjectCommaOrEnd
  | expectedIdent
  | expectedValue
  | invalidEscape
  | invalidNumber
  | numberOutOfRange
  | controlCharacter
  | keyMustBeString
  | loneSurrogate
  | trailingComma
  | trailingCharacters
  | unexpectedEndOfHexEscape
  | recursionLimit
  | invalidType (found : Unexpected) (expected : String)
  | invalidLength (count : Nat) (expected : String)
  | duplicateField (name : String)

def mismatchLayout : Decimal.Layout := ⟨some 17, some (-5), 1, "NaN", "inf", true⟩

/-- how an unexpected value is named -/
def Unexpected.text : Unexpected → String
  | .null => "null"
  | .bool b => "boolean `" ++ toString b ++ "`"
  | .unsigned n => "integer `" ++ toString n ++ "`"
  | .signed i => "integer `" ++ toString i ++ "`"
  | .double x => "floating point `" ++ mismatchLayout.write x ++ "`"
  | .string s => "string " ++ Text.quoted s
  | .sequence => "sequence"
  | .map => "map"

/-- the wording of a problem -/
def Problem.text : Problem → String
  | .eofList => "EOF while parsing a list"
  | .eofObject => "EOF while parsing an object"
  | .eofString => "EOF while parsing a string"
  | .eofValue => "EOF while parsing a value"
  | .expectedColon => "expected `:`"
  | .expectedListCommaOrEnd => "expected `,` or `]`"
  | .expectedObjectCommaOrEnd => "expected `,` or `\x7d`"
  | .expectedIdent => "expected ident"
  | .expectedValue => "expected value"
  | .invalidEscape => "invalid escape"
  | .invalidNumber => "invalid number"
  | .numberOutOfRange => "number out of range"
  | .controlCharacter => "control character (\\u0000-\\u001F) found while parsing a string"
  | .keyMustBeString => "key must be a string"
  | .loneSurrogate => "lone leading surrogate in hex escape"
  | .trailingComma => "trailing comma"
  | .trailingCharacters => "trailing characters"
  | .unexpectedEndOfHexEscape => "unexpected end of hex escape"
  | .recursionLimit => "recursion limit exceeded"
  | .invalidType found expected => "invalid type: " ++ found.text ++ ", expected " ++ expected
  | .invalidLength n expected => "invalid length " ++ toString n ++ ", expected " ++ expected
  | .duplicateField name => "duplicate field `" ++ name ++ "`"

/-- a problem at a line and column -/
structure Fault where
  problem : Problem
  line : Nat
  column : Nat

/-- the wording of a fault with its place -/
def Fault.message (f : Fault) : String :=
  f.problem.text ++ " at line " ++ toString f.line ++ " column " ++ toString f.column

/-- the text not yet read, with the place reached -/
structure Cursor where
  rest : List Char
  line : Nat
  column : Nat

/-- a reading step -/
abbrev Reader (α : Type) := Cursor → Except Fault (α × Cursor)

namespace Cursor

def start (s : String) : Cursor := ⟨s.toList, 1, 0⟩

def step (c : Cursor) (ch : Char) (rest : List Char) : Cursor where
  rest := rest
  line := if ch = '\n' then c.line + 1 else c.line
  column := if ch = '\n' then 0 else c.column + ch.utf8Size

def next (c : Cursor) : Option (Char × Cursor) :=
  match c.rest with
  | [] => none
  | ch :: rest => some (ch, c.step ch rest)

def peek (c : Cursor) : Option Char := c.rest.head?

def fault (c : Cursor) (p : Problem) : Fault := ⟨p, c.line, c.column⟩

def peekFault (c : Cursor) (p : Problem) : Fault :=
  match c.rest with
  | [] => ⟨p, c.line, c.column⟩
  | '\n' :: _ => ⟨p, c.line + 1, 0⟩
  | _ :: _ => ⟨p, c.line, c.column + 1⟩

def advanceBytes : Cursor → Nat → Cursor
  | c, 0 => c
  | c, n + 1 =>
    match c.rest with
    | [] => c
    | ch :: rest =>
      if ch.utf8Size ≤ n + 1 then advanceBytes (c.step ch rest) (n + 1 - ch.utf8Size)
      else ⟨c.rest, c.line, c.column + (n + 1)⟩
termination_by c n => n
decreasing_by exact Nat.sub_lt (Nat.succ_pos n) (Char.utf8Size_pos ch)

def skipSpace (c : Cursor) : Cursor :=
  match h : c.rest with
  | ch :: rest => if ch = ' ' ∨ ch = '\n' ∨ ch = '\t' ∨ ch = '\r' then skipSpace (c.step ch rest) else c
  | [] => c
termination_by c.rest.length
decreasing_by simp [step, h]

end Cursor

def readWord : List Char → Reader Unit
  | [], c => .ok ((), c)
  | w :: ws, c =>
    match c.next with
    | none => .error (c.fault .eofValue)
    | some (ch, c') => if ch = w then readWord ws c' else .error (c.peekFault .expectedIdent)

def hexValue (ch : Char) : Option Nat :=
  if ch.isDigit then some (ch.toNat - '0'.toNat)
  else if 'a' ≤ ch ∧ ch ≤ 'f' then some (ch.toNat - 'a'.toNat + 10)
  else if 'A' ≤ ch ∧ ch ≤ 'F' then some (ch.toNat - 'A'.toNat + 10)
  else none

def readHex4 (c : Cursor) : Except Fault (Nat × Cursor) :=
  let hex : Option (Nat × Cursor) :=
    match c.rest with
    | a :: b :: d :: e :: rest =>
      match hexValue a, hexValue b, hexValue d, hexValue e with
      | some x, some y, some z, some w =>
        some (x * 4096 + y * 256 + z * 16 + w, c.advanceBytes 4)
      | _, _, _, _ => none
    | _ => none
  match hex with
  | some r => .ok r
  | none =>
    if (String.ofList c.rest).utf8ByteSize < 4 then
      .error ((c.advanceBytes (String.ofList c.rest).utf8ByteSize).fault .eofString)
    else .error ((c.advanceBytes 4).fault .invalidEscape)

def readUnicodeEscape (c : Cursor) : Except Fault (Char × Cursor) := do
  let (n, c) ← readHex4 c
  if 0xDC00 ≤ n ∧ n ≤ 0xDFFF then throw (c.fault .loneSurrogate)
  if n < 0xD800 ∨ n > 0xDBFF then return (Char.ofNat n, c)
  match c.next with
  | some ('\\', c) =>
    match c.next with
    | some ('u', c) =>
      let (n2, c) ← readHex4 c
      if n2 < 0xDC00 ∨ n2 > 0xDFFF then throw (c.fault .loneSurrogate)
      return (Char.ofNat (((n - 0xD800) * 1024 + (n2 - 0xDC00)) + 0x10000), c)
    | some _ => throw (c.peekFault .unexpectedEndOfHexEscape)
    | none => throw (c.fault .eofString)
  | some _ => throw (c.peekFault .unexpectedEndOfHexEscape)
  | none => throw (c.fault .eofString)

def simpleEscape : Char → Option Char
  | '"' => some '"'
  | '\\' => some '\\'
  | '/' => some '/'
  | 'b' => some '\x08'
  | 'f' => some '\x0c'
  | 'n' => some '\n'
  | 'r' => some '\r'
  | 't' => some '\t'
  | _ => none

theorem length_lt_of_eq_cons {xs rest : List Char} {c : Char} (h : xs = c :: rest) :
    rest.length < xs.length := by
  subst h
  exact Nat.lt_succ_self _

theorem length_lt_of_eq_cons_cons {xs rest : List Char} {c d : Char} (h : xs = c :: d :: rest) :
    rest.length < xs.length := by
  subst h
  exact Nat.lt_trans (Nat.lt_succ_self _) (Nat.lt_succ_self _)

def readStringBody (acc : List Char) (c : Cursor) : Except Fault (String × Cursor) :=
  match h : c.rest with
  | [] => .error (c.fault .eofString)
  | ['\\'] => .error ((c.step '\\' []).fault .eofString)
  | '\\' :: e :: rest2 =>
    let c2 := (c.step '\\' (e :: rest2)).step e rest2
    match simpleEscape e with
    | some s => readStringBody (s :: acc) c2
    | none =>
      if e = 'u' then
        match readUnicodeEscape c2 with
        | .error f => .error f
        | .ok (u, c3) =>
          if c3.rest.length < c.rest.length then readStringBody (u :: acc) c3
          else .error (c3.fault .eofString)
      else .error ((c.step '\\' (e :: rest2)).peekFault .invalidEscape)
  | ch :: rest =>
    let c1 := c.step ch rest
    if ch = '"' then .ok (String.ofList acc.reverse, c1)
    else if ch.toNat < 0x20 then .error (c1.fault .controlCharacter)
    else readStringBody (ch :: acc) c1
termination_by c.rest.length
decreasing_by
  · exact length_lt_of_eq_cons_cons h
  · assumption
  · exact length_lt_of_eq_cons h

def readDigits (acc count : Nat) (c : Cursor) : Nat × Nat × Cursor :=
  match h : c.rest with
  | ch :: rest =>
    if ch.isDigit then readDigits (acc * 10 + (ch.toNat - '0'.toNat)) (count + 1) (c.step ch rest)
    else (acc, count, c)
  | [] => (acc, count, c)
termination_by c.rest.length
decreasing_by simp [Cursor.step, h]

def exponentLimit : Nat := 2147483647

def readExponentDigits (acc : Nat) (c : Cursor) : Sum Cursor (Nat × Cursor) :=
  match h : c.rest with
  | ch :: rest =>
    if ch.isDigit then
      let acc' := acc * 10 + (ch.toNat - '0'.toNat)
      if acc' > exponentLimit then .inl (c.step ch rest)
      else readExponentDigits acc' (c.step ch rest)
    else .inr (acc, c)
  | [] => .inr (acc, c)
termination_by c.rest.length
decreasing_by simp [Cursor.step, h]

def skipDigits (c : Cursor) : Cursor :=
  match h : c.rest with
  | ch :: rest => if ch.isDigit then skipDigits (c.step ch rest) else c
  | [] => c
termination_by c.rest.length
decreasing_by simp [Cursor.step, h]

def finishNumber (n : Number) (c : Cursor) : Except Fault (Number × Cursor) :=
  match n.kind with
  | .double x =>
    if (Decimal.DoubleKind.of x matches .infinity _) then .error (c.fault .numberOutOfRange)
    else .ok (n, c)
  | _ => .ok (n, c)

def readExponentPart (negative : Bool) (mantissa : Nat) (exp : Int) (c : Cursor) :
    Except Fault (Number × Cursor) :=
  match c.next with
  | none => finishNumber ⟨negative, mantissa, exp, false⟩ c
  | some (_, c) =>
    let (expNegative, c) := match c.rest with
      | '+' :: rest => (false, c.step '+' rest)
      | '-' :: rest => (true, c.step '-' rest)
      | _ => (false, c)
    match c.next with
    | none => .error (c.fault .eofValue)
    | some (ch, c1) =>
      if !ch.isDigit then .error (c.peekFault .invalidNumber)
      else
        match readExponentDigits (ch.toNat - '0'.toNat) c1 with
        | .inl cOver =>
          if mantissa != 0 && !expNegative then .error (cOver.fault .numberOutOfRange)
          else .ok (⟨negative, 0, 0, false⟩, skipDigits cOver)
        | .inr (e, c2) =>
          let e : Int := if expNegative then exp - e else exp + e
          finishNumber ⟨negative, mantissa, e, false⟩ c2

def readNumberTail (negative : Bool) (whole : Nat) (c : Cursor) : Except Fault (Number × Cursor) :=
  match c.peek with
  | some '.' =>
    match c.next with
    | none => .error (c.fault .eofValue)
    | some (_, c1) =>
      let (frac, count, c2) := readDigits 0 0 c1
      if count = 0 then
        match c2.peek with
        | some _ => .error (c2.peekFault .invalidNumber)
        | none => .error (c2.peekFault .eofValue)
      else
        let mantissa := whole * Nat.pow 10 count + frac
        match c2.peek with
        | some 'e' | some 'E' => readExponentPart negative mantissa (-(count : Int)) c2
        | _ => finishNumber ⟨negative, mantissa, -(count : Int), false⟩ c2
  | some 'e' | some 'E' => readExponentPart negative whole 0 c
  | _ => finishNumber ⟨negative, whole, 0, true⟩ c

def readNumber (negative : Bool) (c : Cursor) : Except Fault (Number × Cursor) :=
  match c.next with
  | none => .error (c.fault .eofValue)
  | some (ch, c1) =>
    if ch = '0' then
      match c1.peek with
      | some d => if d.isDigit then .error (c1.peekFault .invalidNumber) else readNumberTail negative 0 c1
      | none => readNumberTail negative 0 c1
    else if ch.isDigit then
      let (whole, _, c2) := readDigits (ch.toNat - '0'.toNat) 1 c1
      readNumberTail negative whole c2
    else .error (c.peekFault .invalidNumber)

def depthLimit : Nat := 128

mutual

def readValue (depth : Nat) (c : Cursor) : Except Fault (Value × Cursor) :=
  let c := c.skipSpace
  match c.rest with
  | [] => .error (c.peekFault .eofValue)
  | ch :: rest =>
    let c1 := c.step ch rest
    match ch with
    | 'n' => (readWord ['u', 'l', 'l'] c1).map fun (_, c) => (.null, c)
    | 't' => (readWord ['r', 'u', 'e'] c1).map fun (_, c) => (.bool true, c)
    | 'f' => (readWord ['a', 'l', 's', 'e'] c1).map fun (_, c) => (.bool false, c)
    | '-' => (readNumber true c1).map fun (n, c) => (.number n, c)
    | '"' => (readStringBody [] c1).map fun (s, c) => (.string s, c)
    | '[' =>
      match depth with
      | 0 | 1 => .error (c.peekFault .recursionLimit)
      | d + 2 =>
        match readItems (d + 1) true [] c1 (c1.rest.length + 1) with
        | .error f => .error f
        | .ok (items, c2) => .ok (.array items, c2)
    | '{' =>
      match depth with
      | 0 | 1 => .error (c.peekFault .recursionLimit)
      | d + 2 =>
        match readFields (d + 1) true [] c1 (c1.rest.length + 1) with
        | .error f => .error f
        | .ok (fields, c2) => .ok (.object fields, c2)
    | _ =>
      if ch.isDigit then (readNumber false c).map fun (n, c) => (.number n, c)
      else .error (c.peekFault .expectedValue)
termination_by (depth, 0, 0)

def readItems (depth : Nat) (first : Bool) (acc : List Value) (c : Cursor) :
    Nat → Except Fault (List Value × Cursor)
  | 0 => .error (c.fault .eofList)
  | fuel + 1 =>
    let c := c.skipSpace
    match c.rest with
    | [] => .error (c.peekFault .eofList)
    | ']' :: rest => .ok (acc.reverse, c.step ']' rest)
    | ',' :: rest =>
      if first then .error (c.peekFault .expectedValue)
      else
        let c1 := (c.step ',' rest).skipSpace
        match c1.rest with
        | ']' :: _ => .error (c1.peekFault .trailingComma)
        | [] => .error (c1.peekFault .eofValue)
        | _ =>
          match readValue depth c1 with
          | .error f => .error f
          | .ok (v, c2) => readItems depth false (v :: acc) c2 fuel
    | _ =>
      if first then
        match readValue depth c with
        | .error f => .error f
        | .ok (v, c2) => readItems depth false (v :: acc) c2 fuel
      else .error (c.peekFault .expectedListCommaOrEnd)
termination_by fuel => (depth, 1, fuel)

def readFields (depth : Nat) (first : Bool) (acc : List (String × Value)) (c : Cursor) :
    Nat → Except Fault (List (String × Value) × Cursor)
  | 0 => .error (c.fault .eofObject)
  | fuel + 1 =>
    let c := c.skipSpace
    match c.rest with
    | [] => .error (c.peekFault .eofObject)
    | '}' :: rest => .ok (acc.reverse, c.step '}' rest)
    | ch :: rest =>
      let keyStart : Except Fault Cursor :=
        if ch = ',' && !first then
          let c1 := (c.step ',' rest).skipSpace
          match c1.rest with
          | '"' :: _ => .ok c1
          | '}' :: _ => .error (c1.peekFault .trailingComma)
          | [] => .error (c1.peekFault .eofValue)
          | _ => .error (c1.peekFault .keyMustBeString)
        else if !first then .error (c.peekFault .expectedObjectCommaOrEnd)
        else if ch = '"' then .ok c
        else .error (c.peekFault .keyMustBeString)
      match keyStart with
      | .error f => .error f
      | .ok ck =>
        match ck.next with
        | none => .error (ck.fault .eofValue)
        | some (_, ck) =>
          match readStringBody [] ck with
          | .error f => .error f
          | .ok (key, c2) =>
            let c3 := c2.skipSpace
            match c3.rest with
            | ':' :: rest3 =>
              match readValue depth (c3.step ':' rest3) with
              | .error f => .error f
              | .ok (v, c4) => readFields depth false ((key, v) :: acc) c4 fuel
            | [] => .error (c3.peekFault .eofObject)
            | _ => .error (c3.peekFault .expectedColon)
termination_by fuel => (depth, 1, fuel)

end

/-- reads a whole text as one JSON value; only blanks may follow it -/
def Value.read (s : String) : Except Fault Value :=
  match readValue depthLimit (Cursor.start s) with
  | .error f => .error f
  | .ok (v, c) =>
    let c := c.skipSpace
    match c.rest with
    | [] => .ok v
    | _ => .error (c.peekFault .trailingCharacters)

end Phrasebook.Json
