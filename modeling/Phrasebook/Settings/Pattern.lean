import Phrasebook.Text.Alphabetic
import Phrasebook.Text.Blank

/-!
# Field value patterns

A field filter may compare a field with a value. A value that reads as a number stands for that
number; any other value is a regular expression, compiled to a deterministic automaton over the
UTF-8 bytes of the field, and a filter whose expression cannot be compiled is refused.
`isFieldValue` decides which values are accepted, `isPattern` which expressions compile.

The expression grammar:

* a character stands for itself, except `\ . + * ? ( ) | [ { ^ $`; `.` is any character, `^`
  and `$` are anchors;
* an escape is ASCII punctuation or space other than `<` and `>`, one of `a f t n r v`, a class
  `d s w D S W`, an anchor `A z`, a word boundary `b B < >` (also `b{start}`, `b{end}`,
  `b{start-half}`, `b{end-half}`), a Unicode class `p` or `P` with a one-letter general category
  or a braced name, or a code point `x`, `u`, `U` with two, four or eight hexadecimal digits or
  any number of them in braces, naming a scalar value; digits and other letters are refused;
* a repetition `*`, `+`, `?`, `{n}`, `{n,}` or `{n,m}` with `n ≤ m` below `2^32` (blanks may
  surround the numbers) applies to the term before it, which must exist and not be a flag
  group; a `?` after it makes it lazy;
* a group is `( … )`, `(?P<name> … )`, `(?<name> … )` or `(?flags: … )`; `(?flags)` sets flags
  for the rest of its group. A name starts with a letter or `_` and goes on with letters,
  digits and `_ . [ ]`, and no name is given twice. The flags are `i m s U u x R`, each at most
  once, with at most one `-` before the ones it turns off, not last; `(?)` is refused, and so is
  look-around `(?=`, `(?!`, `(?<=`, `(?<!`;
* a class `[ … ]` may start with `^`; then any `-`, or else a `]`, are members. Members are
  characters, escapes other than anchors and word boundaries, ASCII classes `[:name:]` and
  `[:^name:]`, nested classes, and ranges of two characters in order; `&&`, `--` and `~~`
  intersect, subtract and take the symmetric difference of the sets around them.

Flag `x` lets blanks and `#` comments stand between pieces. Flag `u`, on at the start, reads
characters; with it off the expression reads bytes, and, as the field is UTF-8, whatever could
match a lone byte above ASCII is refused: `.`, `\D \S \W`, `\xNN` above `7F`, `\B`, a Unicode
class, and a class that holds such bytes or a character beyond ASCII. The automaton cannot
decide a Unicode word boundary, so `\b \B \< \>` are refused while `u` is on.

Groups, alternations, sequences of two or more terms, repetitions and classes nest at most
`nestLimit` deep.

A number is what the standard float reader accepts: an optional sign, then digits with at most
one point and at least one digit, then an optional exponent; or `inf`, `infinity`, `nan` in any
case.
-/

namespace Phrasebook.Settings

open Text

/-- how deeply groups, alternations, sequences, repetitions and classes may nest -/
def nestLimit : Nat := 250

def countLimit : Nat := 4294967295

/-- the flags that change how an expression is read: `spaced` skips blanks and comments between
pieces, `unicode` reads characters rather than bytes -/
structure Mode where
  spaced : Bool
  unicode : Bool

def Mode.initial : Mode := ⟨false, true⟩

def Mode.set (m : Mode) (c : Char) (on : Bool) : Mode :=
  if c == 'x' then { m with spaced := on }
  else if c == 'u' then { m with unicode := on }
  else m

def skipComments : Nat → List Char → List Char
  | 0, cs => cs
  | _ + 1, [] => []
  | n + 1, c :: rest =>
    if isBlank c then skipComments n rest
    else if c == '#' then skipComments n ((rest.dropWhile (· != '\n')).drop 1)
    else c :: rest

def Mode.skip (m : Mode) (cs : List Char) : List Char :=
  if m.spaced then skipComments cs.length cs else cs

theorem Mode.skip_of_not_spaced (m : Mode) (h : m.spaced = false) (cs : List Char) :
    m.skip cs = cs := by
  simp [Mode.skip, h]

def dropLazy : List Char → List Char
  | '?' :: r => r
  | r => r

def decimalValue (ds : List Char) : Nat :=
  ds.foldl (fun acc c => acc * 10 + (c.toNat - '0'.toNat)) 0

def isHexDigit (c : Char) : Bool := c.isDigit || ('a' ≤ c && c ≤ 'f') || ('A' ≤ c && c ≤ 'F')

def hexDigitValue (c : Char) : Nat :=
  if c.isDigit then c.toNat - '0'.toNat
  else if 'a' ≤ c && c ≤ 'f' then c.toNat - 'a'.toNat + 10
  else c.toNat - 'A'.toNat + 10

def isScalar (n : Nat) : Bool := n < 0xD800 || (0xDFFF < n && n ≤ 0x10FFFF)

/-- what an escape, or a character of a class, stands for -/
inductive Piece where
  /-- a character; `byte` when written `\x` with two digits, which names a byte -/
  | char (c : Char) (byte : Bool)
  /-- a digit, space or word class; `negated` for its complement -/
  | perl (negated : Bool)
  /-- a Unicode property class; `known` when its name is a property -/
  | property (known : Bool)
  /-- the start or end of a line or of the text -/
  | anchor
  /-- a word boundary, or the start or end of a word -/
  | boundary
  /-- a position that is no word boundary -/
  | nonBoundary

/-! ## Escapes -/

def hexFixed (m : Mode) : Nat → Nat → List Char → Option (Nat × List Char)
  | 0, acc, cs => some (acc, cs)
  | _ + 1, _, [] => none
  | k + 1, acc, c :: rest =>
    if isHexDigit c then hexFixed m k (acc * 16 + hexDigitValue c) (m.skip rest) else none

def hexBraced (m : Mode) : Nat → Nat → Nat → List Char → Option (Nat × Nat × List Char)
  | 0, _, _, _ => none
  | _ + 1, _, _, [] => none
  | fuel + 1, count, acc, c :: rest =>
    if c == '}' then some (count, acc, m.skip rest)
    else if isHexDigit c then hexBraced m fuel (count + 1) (acc * 16 + hexDigitValue c) (m.skip rest)
    else none

def codePoint (m : Mode) (count : Nat) (cs : List Char) : Option (Nat × Bool × List Char) :=
  match m.skip cs with
  | [] => none
  | '{' :: r =>
    match hexBraced m (r.length + 1) 0 0 (m.skip r) with
    | some (k, v, after) => if k == 0 || !isScalar v then none else some (v, false, after)
    | none => none
  | r =>
    match hexFixed m count 0 r with
    | some (v, after) => if isScalar v then some (v, count == 2, after) else none
    | none => none

def categoryLetters : List Char := ['c', 'l', 'm', 'n', 'p', 's', 'z']

def nameBraced (m : Mode) : Nat → Nat → List Char → Option (Nat × List Char)
  | 0, _, _ => none
  | _ + 1, _, [] => none
  | fuel + 1, count, c :: rest =>
    if c == '}' then some (count, rest) else nameBraced m fuel (count + 1) (m.skip rest)

def property (m : Mode) (cs : List Char) : Option (Piece × List Char) :=
  match m.skip cs with
  | [] => none
  | '{' :: r =>
    match nameBraced m (r.length + 1) 0 (m.skip r) with
    | some (k, after) => some (.property (k != 0), after)
    | none => none
  | c :: rest =>
    if c == '\\' then none else some (.property (categoryLetters.contains c.toLower), m.skip rest)

def boundaryNames : List String := ["start", "end", "start-half", "end-half"]

def isBoundaryNameChar (c : Char) : Bool :=
  ('a' ≤ c && c ≤ 'z') || ('A' ≤ c && c ≤ 'Z') || c == '-'

def boundaryName (m : Mode) : Nat → List Char → List Char → List Char × List Char
  | 0, acc, cs => (acc.reverse, cs)
  | _ + 1, acc, [] => (acc.reverse, [])
  | fuel + 1, acc, c :: rest =>
    if isBoundaryNameChar c then boundaryName m fuel (c :: acc) (m.skip rest)
    else (acc.reverse, c :: rest)

def boundaryEnd (m : Mode) (cs : List Char) : Option (List Char) :=
  match cs with
  | '{' :: r =>
    match m.skip r with
    | [] => none
    | c :: more =>
      if !isBoundaryNameChar c then some cs
      else
        match boundaryName m (more.length + 2) [] (c :: more) with
        | (name, '}' :: after) =>
          if boundaryNames.contains (String.ofList name) then some after else none
        | _ => none
  | _ => some cs

def isMeta (c : Char) : Bool := "\\.+*?()|[]\x7b\x7d^$#&-~".toList.contains c

def isEscapable (c : Char) : Bool :=
  isMeta c || (c.toNat < 128 && !c.isAlphanum && c != '<' && c != '>')

def readEscape (m : Mode) (cs : List Char) : Option (Piece × List Char) :=
  match cs with
  | [] => none
  | c :: rest =>
    if c.isDigit then none
    else if c == 'x' || c == 'u' || c == 'U' then
      (codePoint m (if c == 'x' then 2 else if c == 'u' then 4 else 8) rest).map
        fun (v, byte, after) => (Piece.char (Char.ofNat v) byte, after)
    else if c == 'p' || c == 'P' then property m rest
    else if "dswDSW".toList.contains c then some (.perl c.isUpper, rest)
    else if isEscapable c then some (.char c false, rest)
    else if c == 'a' then some (.char '\x07' false, rest)
    else if c == 'f' then some (.char '\x0C' false, rest)
    else if c == 't' then some (.char '\t' false, rest)
    else if c == 'n' then some (.char '\n' false, rest)
    else if c == 'r' then some (.char '\r' false, rest)
    else if c == 'v' then some (.char '\x0B' false, rest)
    else if c == 'A' || c == 'z' then some (.anchor, rest)
    else if c == 'b' then (boundaryEnd m rest).map fun r => (Piece.boundary, r)
    else if c == '<' || c == '>' then some (.boundary, rest)
    else if c == 'B' then some (.nonBoundary, rest)
    else none

def pieceOk (m : Mode) : Piece → Bool
  | .char c byte => m.unicode || !byte || c.toNat < 0x80
  | .perl negated => m.unicode || !negated
  | .property known => m.unicode && known
  | .anchor => true
  | .boundary => !m.unicode
  | .nonBoundary => false

/-! ## Classes -/

/-- an operator between the sets of a class -/
inductive SetOp where
  | inter
  | diff
  | symm

def SetOp.apply : SetOp → Bool → Bool → Bool
  | .inter, a, b => a && b
  | .diff, a, b => a && !b
  | .symm, a, b => a != b

/-- what the checks need of a set of a class: how deeply it nests, and whether it holds the
bytes above ASCII (read as bytes, a set holds all of them or none) -/
structure SetShape where
  depth : Nat
  high : Bool

def SetShape.plain : SetShape := ⟨0, false⟩

def SetShape.combine (op : SetOp) (l r : SetShape) : SetShape :=
  ⟨max l.depth r.depth + 1, op.apply l.high r.high⟩

def unionShape : List SetShape → SetShape
  | [] => SetShape.plain
  | [s] => s
  | ss => ⟨(ss.map (·.depth)).foldl max 0 + 1, ss.any (·.high)⟩

/-- an open bracket of a class: whether it is negated, its members since the last operator, and
the set before that operator with the operator -/
structure Bracket where
  negated : Bool
  items : List SetShape
  pending : Option (SetOp × SetShape)

def Bracket.set (b : Bracket) : SetShape :=
  match b.pending with
  | none => unionShape b.items
  | some (op, l) => SetShape.combine op l (unionShape b.items)

def Bracket.push (b : Bracket) (s : SetShape) : Bracket := { b with items := s :: b.items }

def Bracket.operate (b : Bracket) (op : SetOp) : Bracket := ⟨b.negated, [], some (op, b.set)⟩

def Bracket.close (b : Bracket) : SetShape :=
  ⟨b.set.depth + 1, b.negated != b.set.high⟩

def memberShape (m : Mode) : Piece → Option SetShape
  | .char c _ => if m.unicode || c.toNat < 0x80 then some .plain else none
  | .perl negated => if m.unicode || !negated then some .plain else none
  | .property known => if m.unicode && known then some .plain else none
  | _ => none

def asciiClassNames : List String :=
  ["alnum", "alpha", "ascii", "blank", "cntrl", "digit", "graph", "lower", "print", "punct",
    "space", "upper", "word", "xdigit"]

def asciiClass (cs : List Char) : Option (Bool × List Char) :=
  match cs with
  | ':' :: r =>
    let (negated, body) := match r with
      | '^' :: b => (true, b)
      | b => (false, b)
    match body.dropWhile (· != ':') with
    | ':' :: ']' :: after =>
      if asciiClassNames.contains (String.ofList (body.takeWhile (· != ':'))) then
        some (negated, after)
      else none
    | _ => none
  | _ => none

def dashes (m : Mode) : Nat → Nat → List Char → Nat × List Char
  | 0, k, cs => (k, cs)
  | fuel + 1, k, '-' :: rest => dashes m fuel (k + 1) (m.skip rest)
  | _ + 1, k, cs => (k, cs)

def openBracket (m : Mode) (cs : List Char) : Bracket × List Char :=
  let (negated, r) := match m.skip cs with
    | '^' :: r => (true, m.skip r)
    | r => (false, r)
  let (k, r) := dashes m r.length 0 r
  match k, r with
  | 0, ']' :: after => (⟨negated, [.plain], none⟩, m.skip after)
  | k, r => (⟨negated, List.replicate k .plain, none⟩, r)

def classPiece (m : Mode) : List Char → Option (Piece × List Char)
  | '\\' :: rest => readEscape m rest
  | c :: rest => some (.char c false, rest)
  | [] => none

def peekAfter (m : Mode) (after : List Char) : Option Char :=
  if !m.spaced then after.head?
  else
    match after.dropWhile isBlank with
    | '#' :: r =>
      match r.dropWhile isBlank with
      | c :: _ => some c
      | [] => after.head?
    | c :: _ => some c
    | [] => after.head?

def classMember (m : Mode) (cs : List Char) : Option (SetShape × List Char) :=
  match classPiece m cs with
  | none => none
  | some (p1, r1) =>
    match m.skip r1 with
    | [] => none
    | '-' :: after =>
      let next := peekAfter m after
      if next == some ']' || next == some '-' then
        (memberShape m p1).map fun s => (s, m.skip r1)
      else
        match p1, classPiece m (m.skip after) with
        | .char lo _, some (.char hi _, r2) =>
          if lo ≤ hi && (m.unicode || hi.toNat < 0x80) then some (.plain, r2) else none
        | _, _ => none
    | r => (memberShape m p1).map fun s => (s, r)

def classRest (m : Mode) : Nat → List Bracket → List Char → Option (SetShape × List Char)
  | 0, _, _ => none
  | _ + 1, [], _ => none
  | fuel + 1, b :: outer, cs =>
    match m.skip cs with
    | [] => none
    | '[' :: rest =>
      match asciiClass rest with
      | some (negated, after) => classRest m fuel (b.push ⟨0, negated⟩ :: outer) after
      | none =>
        let (inner, after) := openBracket m rest
        classRest m fuel (inner :: b :: outer) after
    | ']' :: rest =>
      let shape := b.close
      if !m.unicode && shape.high then none
      else
        match outer with
        | [] => some (shape, rest)
        | p :: more => classRest m fuel (p.push ⟨shape.depth, false⟩ :: more) rest
    | '&' :: '&' :: rest => classRest m fuel (b.operate .inter :: outer) rest
    | '-' :: '-' :: rest => classRest m fuel (b.operate .diff :: outer) rest
    | '~' :: '~' :: rest => classRest m fuel (b.operate .symm :: outer) rest
    | r =>
      match classMember m r with
      | some (s, after) => classRest m fuel (b.push s :: outer) after
      | none => none

def readClass (m : Mode) (cs : List Char) : Option (SetShape × List Char) :=
  let (b, r) := openBracket m cs
  classRest m (r.length + 1) [b] r

/-! ## Repetitions and groups -/

def countDigits (m : Mode) : Nat → List Char → List Char → List Char × List Char
  | 0, ds, cs => (ds.reverse, cs)
  | _ + 1, ds, [] => (ds.reverse, [])
  | fuel + 1, ds, c :: rest =>
    if c.isDigit then countDigits m fuel (c :: ds) (m.skip rest) else (ds.reverse, c :: rest)

def skipBlanks (m : Mode) : Nat → List Char → List Char
  | 0, cs => cs
  | _ + 1, [] => []
  | fuel + 1, c :: rest => if isBlank c then skipBlanks m fuel (m.skip rest) else c :: rest

def readCount (m : Mode) (cs : List Char) : Option (Nat × List Char) :=
  let (ds, r) := countDigits m (cs.length + 1) [] (cs.dropWhile isBlank)
  let r := skipBlanks m (r.length + 1) r
  if ds.isEmpty then none
  else
    let v := decimalValue ds
    if v ≤ countLimit then some (v, r) else none

def afterCount (m : Mode) (cs : List Char) : List Char :=
  match m.skip cs with
  | '?' :: r => r
  | r => r

def countedRest (m : Mode) (cs : List Char) : Option (List Char) :=
  match m.skip cs with
  | [] => none
  | r0 =>
    match readCount m r0 with
    | none => none
    | some (lo, r) =>
      match r with
      | '}' :: after => some (afterCount m after)
      | ',' :: rest =>
        match m.skip rest with
        | [] => none
        | '}' :: after => some (afterCount m after)
        | r2 =>
          match readCount m r2 with
          | some (hi, '}' :: after) => if lo ≤ hi then some (afterCount m after) else none
          | _ => none
      | _ => none

/-- how a parenthesis opens -/
inductive Opening where
  /-- a group read in the given mode, with its name if it has one -/
  | group (m : Mode) (name : Option String) (rest : List Char)
  /-- flags alone, setting the mode for the rest of the enclosing group -/
  | flags (m : Mode) (rest : List Char)

def flagLetters : List Char := ['i', 'm', 's', 'U', 'u', 'x', 'R']

def readFlags (seen : List Char) (negated pending : Bool) (m : Mode) :
    List Char → Option Opening
  | ':' :: r => if pending then none else some (.group m none r)
  | ')' :: r => if pending || (seen.isEmpty && !negated) then none else some (.flags m r)
  | '-' :: r => if negated then none else readFlags seen true true m r
  | c :: r =>
    if flagLetters.contains c && !seen.contains c then
      readFlags (c :: seen) negated false (m.set c !negated) r
    else none
  | [] => none

def isNameStart (c : Char) : Bool := c == '_' || isAlphabetic c

def isNameChar (c : Char) : Bool := c == '_' || c == '.' || c == '[' || c == ']' || isAlphanumeric c

def groupName : List Char → Option (String × List Char)
  | c :: rest =>
    if isNameStart c then
      match rest.dropWhile isNameChar with
      | '>' :: after => some (String.ofList (c :: rest.takeWhile isNameChar), after)
      | _ => none
    else none
  | [] => none

def openGroup (m : Mode) (cs : List Char) : Option Opening :=
  match m.skip cs with
  | '?' :: '=' :: _ | '?' :: '!' :: _ | '?' :: '<' :: '=' :: _ | '?' :: '<' :: '!' :: _ => none
  | '?' :: 'P' :: '<' :: r | '?' :: '<' :: r =>
    (groupName r).map fun (n, after) => Opening.group m (some n) after
  | '?' :: r => readFlags [] false false m r
  | r => some (.group m none r)

/-! ## Expressions -/

/-- a term of a sequence: how deeply it nests, and whether a repetition may follow it -/
structure Term where
  depth : Nat
  repeatable : Bool

def seqDepth : List Term → Nat
  | [] => 0
  | [t] => t.depth
  | ts => (ts.map (·.depth)).foldl max 0 + 1

/-- what has been read of a group, or of the whole expression: the depths of its finished
alternatives and the terms of the current one, latest first -/
structure Level where
  branches : List Nat
  terms : List Term

def Level.empty : Level := ⟨[], []⟩

def Level.depth (l : Level) : Nat :=
  match l.branches with
  | [] => seqDepth l.terms
  | bs => (seqDepth l.terms :: bs).foldl max 0 + 1

def Level.add (l : Level) (t : Term) : Level := { l with terms := t :: l.terms }

def Level.repeated (l : Level) : Option Level :=
  match l.terms with
  | t :: ts => if t.repeatable then some { l with terms := ⟨t.depth + 1, true⟩ :: ts } else none
  | [] => none

def Level.branch (l : Level) : Level := ⟨seqDepth l.terms :: l.branches, []⟩

/-- an open group: the level around it and the mode outside it -/
structure Frame where
  outer : Level
  mode : Mode

def Term.atom : Term := ⟨0, true⟩

def walk : Nat → Mode → List String → List Frame → Level → List Char → Option Nat
  | 0, _, _, _, _, _ => none
  | fuel + 1, m, names, frames, here, cs =>
    match m.skip cs with
    | [] => if frames.isEmpty then some here.depth else none
    | c :: rest =>
      if c == '(' then
        match openGroup m rest with
        | some (.flags m' after) => walk fuel m' names frames (here.add ⟨0, false⟩) after
        | some (.group m' none after) => walk fuel m' names (⟨here, m⟩ :: frames) .empty after
        | some (.group m' (some n) after) =>
          if names.contains n then none
          else walk fuel m' (n :: names) (⟨here, m⟩ :: frames) .empty after
        | none => none
      else if c == ')' then
        match frames with
        | f :: fs => walk fuel f.mode names fs (f.outer.add ⟨here.depth + 1, true⟩) rest
        | [] => none
      else if c == '|' then walk fuel m names frames here.branch rest
      else if c == '[' then
        match readClass m rest with
        | some (s, after) => walk fuel m names frames (here.add ⟨s.depth, true⟩) after
        | none => none
      else if c == '?' || c == '*' || c == '+' then
        match here.repeated with
        | some l => walk fuel m names frames l (dropLazy rest)
        | none => none
      else if c == '{' then
        match here.repeated, countedRest m rest with
        | some l, some after => walk fuel m names frames l after
        | _, _ => none
      else if c == '\\' then
        match readEscape m rest with
        | some (p, after) =>
          if pieceOk m p then walk fuel m names frames (here.add .atom) after else none
        | none => none
      else if c == '.' then
        if m.unicode then walk fuel m names frames (here.add .atom) rest else none
      else walk fuel m names frames (here.add .atom) rest

/-- whether a text is a regular expression that compiles -/
def isPattern (cs : List Char) : Bool :=
  match walk (cs.length + 1) .initial [] [] .empty cs with
  | some d => d ≤ nestLimit
  | none => false

def isFloatText (cs : List Char) : Bool :=
  let body := match cs with
    | '+' :: r => r
    | '-' :: r => r
    | r => r
  let word := String.ofList (body.map Char.toLower)
  word == "inf" || word == "infinity" || word == "nan" ||
    let whole := body.takeWhile Char.isDigit
    let r := body.dropWhile Char.isDigit
    let (frac, r) := match r with
      | '.' :: r' => (r'.takeWhile Char.isDigit, r'.dropWhile Char.isDigit)
      | r' => ([], r')
    (!whole.isEmpty || !frac.isEmpty) &&
      match r with
      | [] => true
      | e :: r' =>
        (e == 'e' || e == 'E') &&
          let ds := match r' with
            | '+' :: d => d
            | '-' :: d => d
            | d => d
          !ds.isEmpty && ds.all Char.isDigit

/-- whether a field filter accepts a value: a number, or a regular expression that compiles -/
def isFieldValue (cs : List Char) : Bool := isFloatText cs || isPattern cs

end Phrasebook.Settings
