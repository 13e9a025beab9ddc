import Phrasebook.Toml.Parse

/-!
# Reporting TOML errors

An error of reading TOML, or of taking a TOML value as something it is not, is shown with the
line it was found on and a caret under the place:

```
TOML parse error at line 1, column 10
  |
1 | locale = 3
  |          ^
invalid type: integer `3`, expected a string
```

* `place`          the line and column of a byte offset: the line counts line breaks before
                   it; the column counts characters from the start of the line, or bytes when
                   the offset is inside a character; an offset past the end of the text is
                   counted from its last byte;
* `Report.render`  the text above; at least one caret is shown, and no more than reach the
                   end of the line.
-/

namespace Phrasebook.Toml

/-- an error with the message to show and the byte span it concerns, if any -/
structure Report where
  message : String
  span : Option Span

def Fault.report (f : Fault) (textSize : Nat) : Report :=
  ⟨f.message, some (f.offset, if f.offset == textSize then f.offset else f.offset + 1)⟩

def ReadError.report (e : ReadError) (textSize : Nat) : Report :=
  match e with
  | .fault f => f.report textSize
  | .clash c => ⟨c.text, none⟩

def locate (target : Nat) : List Char → Nat → Nat → Nat → Nat → Nat × Nat × Nat × Bool
  | [], _, lineStart, line, chars => (lineStart, line, chars, false)
  | c :: cs, pos, lineStart, line, chars =>
    let next := pos + c.utf8Size
    if target < next then (lineStart, line, chars, next == target + 1)
    else if c == '\n' then locate target cs next next (line + 1) 0
    else locate target cs next lineStart line (chars + 1)

/-- the line and column, both from zero, of byte `index` of a text -/
def place (text : List Char) (size index : Nat) : Nat × Nat :=
  if size == 0 then (0, index)
  else
    let safe := min index (size - 1)
    let (lineStart, line, chars, whole) := locate safe text 0 0 0 0
    (line, (if whole then chars else safe - lineStart) + (index - safe))

def spaces (n : Nat) : String := String.ofList (List.replicate n ' ')

/-- the text of a report about `text` -/
def Report.render (r : Report) (text : String) : String :=
  match r.span with
  | none => r.message ++ "\n"
  | some (start, stop) =>
    let cs := text.toList
    let (line, column) := place cs text.utf8ByteSize start
    let content := String.ofList ((cs.splitOn '\n').getD line [])
    let lineNum := toString (line + 1)
    let gutter := spaces (lineNum.length + 1)
    let highlight := min (stop - start) (content.utf8ByteSize - column)
    "TOML parse error at line " ++ lineNum ++ ", column " ++ toString (column + 1) ++ "\n" ++
      gutter ++ "|\n" ++
      lineNum ++ " | " ++ content ++ "\n" ++
      gutter ++ "|" ++ spaces (column + 1) ++ String.ofList (List.replicate (max 1 highlight) '^') ++
      "\n" ++ r.message ++ "\n"

theorem place_empty (index : Nat) : place [] 0 index = (0, index) := rfl

end Phrasebook.Toml
