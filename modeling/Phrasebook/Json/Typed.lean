import Phrasebook.Json.Read
import Phrasebook.Table.Basic

/-!
# Reading JSON as typed data

Readers that take JSON text straight into a shape (text, nullable values, tables of strings),
faulting at the first place where the text is not JSON or not of the shape.

* A value of the wrong kind is named after it is read (`invalid type: integer 5, expected a
  string`), except arrays and objects, which are named where they open.
* `readTable` reads an object into a table; of two entries with one key the later wins.
* `skipValue` passes over a value of any shape, checking its syntax only; it reads numbers
  without their value, so no number is out of range there.
-/

namespace Phrasebook.Json

def Number.unexpected (n : Number) : Unexpected :=
  match n.kind with
  | .unsigned k => .unsigned k
  | .signed i => .signed i
  | .double x => .double x

def Value.unexpected : Value → Unexpected
  | .null => .null
  | .bool b => .bool b
  | .number n => n.unexpected
  | .string s => .string s
  | .array _ => .sequence
  | .object _ => .map

def wrongType (c : Cursor) (expected : String) : Fault :=
  match c.rest with
  | 'n' :: rest =>
    match readWord ['u', 'l', 'l'] (c.step 'n' rest) with
    | .error f => f
    | .ok (_, c') => c'.fault (.invalidType .null expected)
  | 't' :: rest =>
    match readWord ['r', 'u', 'e'] (c.step 't' rest) with
    | .error f => f
    | .ok (_, c') => c'.fault (.invalidType (.bool true) expected)
  | 'f' :: rest =>
    match readWord ['a', 'l', 's', 'e'] (c.step 'f' rest) with
    | .error f => f
    | .ok (_, c') => c'.fault (.invalidType (.bool false) expected)
  | '-' :: rest =>
    match readNumber true (c.step '-' rest) with
    | .error f => f
    | .ok (n, c') => c'.fault (.invalidType n.unexpected expected)
  | '"' :: rest =>
    match readStringBody [] (c.step '"' rest) with
    | .error f => f
    | .ok (s, c') => c'.fault (.invalidType (.string s) expected)
  | '[' :: _ => c.fault (.invalidType .sequence expected)
  | '{' :: _ => c.fault (.invalidType .map expected)
  | ch :: _ =>
    if ch.isDigit then
      match readNumber false c with
      | .error f => f
      | .ok (n, c') => c'.fault (.invalidType n.unexpected expected)
    else c.peekFault .expectedValue
  | [] => c.peekFault .expectedValue

def readText (c : Cursor) : Except Fault (String × Cursor) :=
  let c := c.skipSpace
  match c.rest with
  | [] => .error (c.peekFault .eofValue)
  | '"' :: rest => readStringBody [] (c.step '"' rest)
  | _ => .error (wrongType c "a string")

def readNullable {α : Type} (inner : Cursor → Except Fault (α × Cursor)) (c : Cursor) :
    Except Fault (Option α × Cursor) :=
  let c := c.skipSpace
  match c.rest with
  | 'n' :: rest =>
    match readWord ['u', 'l', 'l'] (c.step 'n' rest) with
    | .error f => .error f
    | .ok (_, c') => .ok (none, c')
  | _ =>
    match inner c with
    | .error f => .error f
    | .ok (a, c') => .ok (some a, c')

def readColon (c : Cursor) : Except Fault Cursor :=
  let c := c.skipSpace
  match c.rest with
  | ':' :: rest => .ok (c.step ':' rest)
  | [] => .error (c.peekFault .eofObject)
  | _ => .error (c.peekFault .expectedColon)

def nextKey (first : Bool) (c : Cursor) : Except Fault (Option (String × Cursor)) :=
  let c := c.skipSpace
  let keyAt (ck : Cursor) : Except Fault (Option (String × Cursor)) :=
    match ck.rest with
    | '"' :: rest => (readStringBody [] (ck.step '"' rest)).map some
    | '}' :: _ => .error (ck.peekFault .trailingComma)
    | [] => .error (ck.peekFault .eofValue)
    | _ => .error (ck.peekFault .keyMustBeString)
  match c.rest with
  | '}' :: _ => .ok none
  | [] => .error (c.peekFault .eofObject)
  | ',' :: rest =>
    if first then .error (c.peekFault .keyMustBeString)
    else keyAt (c.step ',' rest).skipSpace
  | _ =>
    if first then keyAt c else .error (c.peekFault .expectedObjectCommaOrEnd)

def readEntries {α : Type} (inner : Cursor → Except Fault (α × Cursor)) (first : Bool)
    (acc : Table α) (c : Cursor) : Nat → Except Fault (Table α × Cursor)
  | 0 => .error (c.fault .eofObject)
  | fuel + 1 =>
    match nextKey first c with
    | .error f => .error f
    | .ok none =>
      let c := c.skipSpace
      match c.rest with
      | ch :: rest => .ok (acc, c.step ch rest)
      | [] => .ok (acc, c)
    | .ok (some (k, ck)) =>
      match readColon ck with
      | .error f => .error f
      | .ok cv =>
        match inner cv with
        | .error f => .error f
        | .ok (v, c') => readEntries inner false (acc.insert k v) c' fuel

/-- reads an object into a table -/
def readTable {α : Type} (inner : Cursor → Except Fault (α × Cursor)) (c : Cursor) :
    Except Fault (Table α × Cursor) :=
  let c := c.skipSpace
  match c.rest with
  | [] => .error (c.peekFault .eofValue)
  | '{' :: rest =>
    let c1 := c.step '{' rest
    readEntries inner true Table.empty c1 (c1.rest.length + 1)
  | _ => .error (wrongType c "a map")

def skipDigitsFrom (c : Cursor) : Cursor := skipDigits c

def skipExponent (c : Cursor) : Except Fault Cursor :=
  match c.next with
  | none => .ok c
  | some (_, c) =>
    let c := match c.rest with
      | '+' :: rest => c.step '+' rest
      | '-' :: rest => c.step '-' rest
      | _ => c
    match c.next with
    | some (ch, c1) => if ch.isDigit then .ok (skipDigits c1) else .error (c.peekFault .invalidNumber)
    | none => .error (c.fault .invalidNumber)

def skipNumber (c : Cursor) : Except Fault Cursor :=
  let afterDigits (c : Cursor) : Except Fault Cursor :=
    match c.rest with
    | '.' :: rest =>
      let c1 := c.step '.' rest
      let c2 := skipDigits c1
      if c2.rest.length == c1.rest.length then .error (c2.peekFault .invalidNumber)
      else
        match c2.rest with
        | 'e' :: _ | 'E' :: _ => skipExponent c2
        | _ => .ok c2
    | 'e' :: _ | 'E' :: _ => skipExponent c
    | _ => .ok c
  match c.next with
  | some ('0', c1) =>
    match c1.rest with
    | d :: _ => if d.isDigit then .error (c1.peekFault .invalidNumber) else afterDigits c1
    | [] => afterDigits c1
  | some (ch, c1) =>
    if ch.isDigit then afterDigits (skipDigits c1) else .error (c.peekFault .invalidNumber)
  | none => .error (c.fault .invalidNumber)

def skipString (c : Cursor) : Except Fault Cursor :=
  match h : c.rest with
  | [] => .error (c.fault .eofString)
  | ch :: rest =>
    if ch = '"' then .ok (c.step ch rest)
    else if ch.toNat < 0x20 then .error (c.fault .controlCharacter)
    else if ch = '\\' then
      let c1 := c.step ch rest
      match h2 : rest with
      | [] => .error (c1.fault .eofString)
      | e :: rest2 =>
        let c2 := c1.step e rest2
        if e = '"' ∨ e = '\\' ∨ e = '/' ∨ e = 'b' ∨ e = 'f' ∨ e = 'n' ∨ e = 'r' ∨ e = 't' then
          skipString c2
        else if e = 'u' then
          match readHex4 c2 with
          | .error f => .error f
          | .ok (_, c3) =>
            if hlt : c3.rest.length < c.rest.length then skipString c3
            else .error (c3.fault .eofString)
        else .error (c1.peekFault .invalidEscape)
    else skipString (c.step ch rest)
termination_by c.rest.length
decreasing_by
  · subst h2; exact length_lt_of_eq_cons_cons h
  · exact hlt
  · exact length_lt_of_eq_cons h

def skipScalar (c : Cursor) : Except Fault (Option Cursor) :=
  match c.rest with
  | 'n' :: rest => (readWord ['u', 'l', 'l'] (c.step 'n' rest)).map fun (_, c) => some c
  | 't' :: rest => (readWord ['r', 'u', 'e'] (c.step 't' rest)).map fun (_, c) => some c
  | 'f' :: rest => (readWord ['a', 'l', 's', 'e'] (c.step 'f' rest)).map fun (_, c) => some c
  | '-' :: rest => (skipNumber (c.step '-' rest)).map some
  | '"' :: rest => (skipString (c.step '"' rest)).map some
  | '[' :: _ | '{' :: _ => .ok none
  | ch :: _ => if ch.isDigit then (skipNumber c).map some else .error (c.peekFault .expectedValue)
  | [] => .error (c.peekFault .eofValue)

/-- where skipping stands: before a value, or inside the innermost open array or object -/
inductive SkipState where
  | value
  | inside (frame : Char) (acceptComma : Bool)

def skipLoop (state : SkipState) (stack : List Char) (c : Cursor) : Nat → Except Fault Cursor
  | 0 => .error (c.fault .eofValue)
  | fuel + 1 =>
    match state with
    | .value =>
      let c := c.skipSpace
      match c.rest with
      | [] => .error (c.peekFault .eofValue)
      | ch :: rest =>
        if ch = '[' ∨ ch = '{' then skipLoop (.inside ch false) stack (c.step ch rest) fuel
        else
          match skipScalar c with
          | .error f => .error f
          | .ok none => .error (c.peekFault .expectedValue)
          | .ok (some c') =>
            match stack with
            | [] => .ok c'
            | frame :: below => skipLoop (.inside frame true) below c' fuel
    | .inside frame acceptComma =>
      let c := c.skipSpace
      let closer := if frame = '[' then ']' else '}'
      match c.rest with
      | [] => .error (c.peekFault (if frame = '[' then .eofList else .eofObject))
      | ch :: rest =>
        if ch = ',' ∧ acceptComma then
          let c1 := c.step ch rest
          if frame = '[' then skipLoop .value (frame :: stack) c1 fuel
          else skipKeyThen frame stack c1 fuel
        else if ch = closer then
          let c1 := c.step ch rest
          match stack with
          | [] => .ok c1
          | parent :: below => skipLoop (.inside parent true) below c1 fuel
        else if acceptComma then
          .error (c.peekFault (if frame = '[' then .expectedListCommaOrEnd else .expectedObjectCommaOrEnd))
        else if frame = '[' then skipLoop .value (frame :: stack) c fuel
        else skipKeyThen frame stack c fuel
where
  /-- skips a key and its colon, then the value after them -/
  skipKeyThen (frame : Char) (stack : List Char) (c : Cursor) (fuel : Nat) : Except Fault Cursor :=
    let c := c.skipSpace
    match c.rest with
    | '"' :: rest =>
      match skipString (c.step '"' rest) with
      | .error f => .error f
      | .ok ck =>
        let ck := ck.skipSpace
        match ck.rest with
        | ':' :: rest2 => skipLoop .value (frame :: stack) (ck.step ':' rest2) fuel
        | [] => .error (ck.peekFault .eofObject)
        | _ => .error (ck.peekFault .expectedColon)
    | [] => .error (c.peekFault .eofObject)
    | _ => .error (c.peekFault .keyMustBeString)

/-- skips one value of any shape -/
def skipValue (c : Cursor) : Except Fault Cursor := skipLoop .value [] c (2 * c.rest.length + 2)

end Phrasebook.Json
