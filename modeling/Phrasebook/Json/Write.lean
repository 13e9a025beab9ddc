import Phrasebook.Json.Value
import Phrasebook.Decimal.Layout

/-!
# Writing JSON

Compact JSON text: no blanks, fields in the order held. A string escapes the quote, the
backslash and the control characters (`\n`, `\r`, `\t`, `\b`, `\f` by name, the others as
`\u00xx` in lower-case hexadecimal); everything else is written as is. A double is written with
its shortest digits, positionally with a fraction digit from `1e-5` up to `1e16` and in
scientific form outside.

`Value.canonical` gives every object its fields in the order of their names, the last of a
repeated name winning: the form a value takes when its objects are maps.
-/

namespace Phrasebook.Json

def numberLayout : Decimal.Layout := ⟨some 17, some (-5), 1, "null", "null", false⟩

def hexDigit (n : Nat) : Char :=
  if n < 10 then Char.ofNat ('0'.toNat + n) else Char.ofNat ('a'.toNat + n - 10)

def escapeChar (c : Char) : String :=
  match c with
  | '"' => "\\\""
  | '\\' => "\\\\"
  | '\n' => "\\n"
  | '\r' => "\\r"
  | '\t' => "\\t"
  | '\x08' => "\\b"
  | '\x0c' => "\\f"
  | c =>
    if c.toNat < 0x20 then
      "\\u00" ++ String.singleton (hexDigit (c.toNat / 16)) ++ String.singleton (hexDigit (c.toNat % 16))
    else String.singleton c

def quote (s : String) : String :=
  "\"" ++ String.join (s.toList.map escapeChar) ++ "\""

def Number.write (n : Number) : String :=
  match n.kind with
  | .unsigned k => toString k
  | .signed i => toString i
  | .double x => numberLayout.write x

mutual

def Value.compact : Value → String
  | .null => "null"
  | .bool b => toString b
  | .number n => n.write
  | .string s => quote s
  | .array items => "[" ++ compactItems items ++ "]"
  | .object fields => "\x7b" ++ compactFields fields ++ "\x7d"

def compactItems : List Value → String
  | [] => ""
  | [v] => v.compact
  | v :: vs => v.compact ++ "," ++ compactItems vs

def compactFields : List (String × Value) → String
  | [] => ""
  | [(k, v)] => quote k ++ ":" ++ v.compact
  | (k, v) :: fs => quote k ++ ":" ++ v.compact ++ "," ++ compactFields fs

end

mutual

/-- objects with their fields ordered by name, the last of a repeated name winning -/
def Value.canonical : Value → Value
  | .array items => .array (canonicalItems items)
  | .object fields => .object (Value.sortedFields (canonicalFields fields))
  | v => v

def canonicalItems : List Value → List Value
  | [] => []
  | v :: vs => v.canonical :: canonicalItems vs

def canonicalFields : List (String × Value) → List (String × Value)
  | [] => []
  | (k, v) :: fs => (k, v.canonical) :: canonicalFields fs

end

end Phrasebook.Json
