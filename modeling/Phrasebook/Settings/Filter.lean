import Phrasebook.Settings.Pattern

/-!
# Log filter directives

A log filter is a list of directives separated by commas, empty ones skipped. A directive is a
target, then optionally a span in brackets, then optionally `=` and a level:

* the target is any text up to the first `[` or `=`; it starts with a letter, a digit, `-`, `:`
  or `_`, or is empty when the span follows;
* the span is `[name]` or `[name{field}]`, the name being any text without `{` or `]`, and
  nothing may come between the closing brace and bracket; a field is non-empty text up to the
  first `}`, a name optionally followed by `=` and a value that is a number or a regular
  expression that compiles;
* the level is empty, a whole number from `0` to `5` (a leading `+` and leading zeros are
  allowed), or `trace`, `debug`, `info`, `warn`, `error` or `off` in any case.

After the span only the level may follow, so `[span]target` is refused while `target[span]` is a
directive. A directive without `=` and span is a level or a target, and either is accepted.

Blanks around a directive are skipped while it is scanned, but the pieces it is cut into are
taken at the scanned byte offsets from the directive as written. After leading blanks these
pieces start early: a level then starts with the `=` before it and is refused, while a lone
target or level is accepted with its blanks. An offset that falls inside a character refuses the
directive. `isValidFilter` says whether every directive of a filter is accepted.
-/

namespace Phrasebook.Settings

open Text

def levelNames : List String := ["trace", "debug", "info", "warn", "error", "off"]

def isLevel (cs : List Char) : Bool :=
  let digits := match cs with
    | '+' :: r => r
    | r => r
  cs.isEmpty || levelNames.contains (String.ofList (cs.map Char.toLower)) ||
    (!digits.isEmpty && digits.all Char.isDigit && decimalValue digits ≤ 5)

def isField (cs : List Char) : Bool :=
  match cs.dropWhile (· != '=') with
  | [] => true
  | _ :: value => isFieldValue (value.takeWhile (· != '='))

def isTargetStart (c : Char) : Bool := isAlphanumeric c || c == '-' || c == ':' || c == '_'

def dropBytes : Nat → List Char → Option (List Char)
  | 0, cs => some cs
  | _ + 1, [] => none
  | n + 1, c :: rest => if c.utf8Size ≤ n + 1 then dropBytes (n + 1 - c.utf8Size) rest else none

def bytesOf : List Char → Nat
  | [] => 0
  | c :: cs => c.utf8Size + bytesOf cs

theorem dropBytes_prefix (pre rest : List Char) :
    dropBytes (bytesOf pre) (pre ++ rest) = some rest := by
  induction pre with
  | nil => simp [bytesOf, dropBytes]
  | cons c cs ih =>
    have h := c.utf8Size_pos
    obtain ⟨k, hk⟩ : ∃ k, c.utf8Size + bytesOf cs = k + 1 :=
      ⟨c.utf8Size + bytesOf cs - 1, by omega⟩
    simp only [bytesOf, List.cons_append, hk, dropBytes]
    rw [if_pos (by omega), show k + 1 - c.utf8Size = bytesOf cs by omega, ih]

def takeBytes : Nat → List Char → Option (List Char)
  | 0, _ => some []
  | _ + 1, [] => none
  | n + 1, c :: rest =>
    if c.utf8Size ≤ n + 1 then (takeBytes (n + 1 - c.utf8Size) rest).map (c :: ·) else none

def sliceBytes (cs : List Char) (a b : Nat) : Option (List Char) :=
  if a ≤ b then (dropBytes a cs).bind (takeBytes (b - a)) else none

/-- where the scan of a directive stands; offsets are where the current piece begins -/
inductive Stage where
  /-- nothing read -/
  | start
  /-- in a target, or in a level standing alone -/
  | levelOrTarget (begin : Nat)
  /-- in a span name -/
  | span (begin : Nat)
  /-- in a field -/
  | field (begin : Nat)
  /-- after a field's closing brace -/
  | fields
  /-- after a span -/
  | target
  /-- in a level after `=` -/
  | level (begin : Nat)

def Stage.step (whole : List Char) (s : Stage) (i : Nat) (c : Char) : Option Stage :=
  match s with
  | .start =>
    if c == '[' then some (.span (i + 1))
    else if isTargetStart c then some (.levelOrTarget i)
    else none
  | .levelOrTarget b =>
    if c == '=' then (sliceBytes whole b i).map fun _ => .level (i + 1)
    else if c == '[' then (sliceBytes whole b i).map fun _ => .span (i + 1)
    else some s
  | .target => if c == '=' then some (.level (i + 1)) else none
  | .span b =>
    if c == ']' then (sliceBytes whole b i).map fun _ => .target
    else if c == '{' then (sliceBytes whole b i).map fun _ => .field (i + 1)
    else some s
  | .field b =>
    if c == '}' then
      match sliceBytes whole b i with
      | some f => if !f.isEmpty && isField f then some .fields else none
      | none => none
    else some s
  | .fields => if c == ']' then some .target else none
  | .level _ => some s

def Stage.finish (whole : List Char) : Stage → Bool
  | .levelOrTarget b => (dropBytes b whole).isSome
  | .level b => (dropBytes b whole).any isLevel
  | .target | .fields => true
  | _ => false

def Stage.scan (whole : List Char) (s : Stage) (i : Nat) : List Char → Bool
  | [] => s.finish whole
  | c :: rest =>
    match s.step whole i c with
    | some s' => s'.scan whole (i + c.utf8Size) rest
    | none => false

def isDirective (cs : List Char) : Bool :=
  Stage.start.scan cs 0 (trimBlankList cs)

/-- whether a filter is a list of accepted directives -/
def isValidFilter (s : String) : Bool :=
  ((s.toList.splitOn ',').filter (!·.isEmpty)).all isDirective

end Phrasebook.Settings
