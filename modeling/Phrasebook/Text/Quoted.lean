import Phrasebook.Text.Printable

/-!
# Quoted text

`quoted s` writes a string as a double-quoted literal: the quote, the backslash, tab, line feed,
carriage return and NUL take a backslash escape; a character that is not printable, or that
extends a grapheme, is written as `\u` with its hexadecimal code in braces; every other
character stands for itself. Escaping the grapheme extenders keeps a combining mark from
attaching to the quote or to the escape before it.
-/

namespace Phrasebook.Text

def hexDigits (n : Nat) : String := String.ofList (Nat.toDigits 16 n)

def quotedChar (c : Char) : String :=
  match c with
  | '"' => "\\\""
  | '\\' => "\\\\"
  | '\n' => "\\n"
  | '\r' => "\\r"
  | '\t' => "\\t"
  | '\x00' => "\\0"
  | c =>
    if isGraphemeExtend c || !isPrintable c then "\\u\x7b" ++ hexDigits c.toNat ++ "\x7d"
    else c.toString

/-- a string as a double-quoted literal -/
def quoted (s : String) : String := "\"" ++ String.join (s.toList.map quotedChar) ++ "\""

def quotedList (xs : List String) : String :=
  "[" ++ ", ".intercalate (xs.map quoted) ++ "]"

end Phrasebook.Text
