import Phrasebook.Toml.Lexeme
import Phrasebook.Decimal.Read

/-!
# Reading TOML: numbers, dates and truth values

* `integer`   a decimal integer with optional sign, or a hexadecimal, octal or binary one
              after `0x`, `0o` or `0b`; digits may be grouped by single underscores; the value
              must fit 64 bits;
* `float`     a decimal number with a fraction, an exponent or both, or `inf` and `nan` with
              optional sign; a value too large to hold is refused (only upwards: `-1e400` is
              minus infinity);
* `dateTime`  an RFC 3339 date, date and time (with or without offset), or time of day, with
              the day checked against the length of its month.

A value starting with a digit or a sign is tried as a date, then as a float, then as an
integer; the failure of the last is the one reported when none fits.
-/

namespace Phrasebook.Toml

def digitRun (isD : Char → Bool) : Nat → List Char → Cursor → Step (List Char)
  | 0, acc, cur => .ok (acc, cur)
  | fuel + 1, acc, cur =>
    match cur.rest with
    | c :: r =>
      if isD c then digitRun isD fuel (acc ++ [c]) (cur.past c r)
      else if c == '_' then
        let c1 := cur.past c r
        match r with
        | d :: r' =>
          if isD d then digitRun isD fuel (acc ++ [d]) (c1.past d r')
          else .error (c1.hard [.expected "digit"])
        | [] => .error (c1.hard [.expected "digit"])
      else .ok (acc, cur)
    | [] => .ok (acc, cur)

def isDecDigit (c : Char) : Bool := c.isDigit

def sign (cur : Cursor) : Option Char × Cursor :=
  match cur.rest with
  | '+' :: r => (some '+', cur.past '+' r)
  | '-' :: r => (some '-', cur.past '-' r)
  | _ => (none, cur)

def decInt (cur : Cursor) : Step (Option Char × List Char) :=
  let (s, c1) := sign cur
  let fail := c1.soft [.label "integer"]
  match c1.rest with
  | d :: r =>
    if '1' ≤ d && d ≤ '9' then
      match digitRun isDecDigit (r.length + 1) [d] (c1.past d r) with
      | .ok (ds, c2) => .ok ((s, ds), c2)
      | .error e => .error (e.within (.label "integer"))
    else if d == '0' then .ok ((s, ['0']), c1.past d r)
    else .error fail
  | [] => .error fail

def digitsValue (base : Nat) (ds : List Char) : Nat :=
  ds.foldl (fun acc d => acc * base + hexValue d) 0

def prefixed (base : Nat) (isD : Char → Bool) (what : String) (start : Cursor) : Step Int :=
  let cur := start.skip (start.rest.take 2)
  match cur.rest with
  | d :: r =>
    if isD d then
      match digitRun isD (r.length + 1) [d] (cur.past d r) with
      | .ok (ds, c2) =>
        let v := digitsValue base ds
        if v < Nat.pow 2 63 then .ok (v, c2)
        else .error (.hard ⟨start.offset, [], some "number too large to fit in target type"⟩)
      | .error e => .error (e.within (.label what))
    else .error (cur.hard [.label what])
  | [] => .error (cur.hard [.label what])

/-- an integer: decimal with optional sign, or hexadecimal, octal or binary after its prefix -/
def integer (cur : Cursor) : Step Int :=
  if cur.startsWith ['0', 'x'] then prefixed 16 isHexDigit "hexadecimal integer" cur
  else if cur.startsWith ['0', 'o'] then prefixed 8 (fun c => '0' ≤ c && c ≤ '7') "octal integer" cur
  else if cur.startsWith ['0', 'b'] then prefixed 2 (fun c => c == '0' || c == '1') "binary integer" cur
  else
    match decInt cur with
    | .ok ((s, ds), c1) =>
      let m : Int := digitsValue 10 ds
      let v := if s == some '-' then -m else m
      if v < -9223372036854775808 then
        .error (.hard ⟨cur.offset, [], some "number too small to fit in target type"⟩)
      else if 9223372036854775808 ≤ v then
        .error (.hard ⟨cur.offset, [], some "number too large to fit in target type"⟩)
      else .ok (v, c1)
    | .error e => .error e

def zeroPrefixableInt (cur : Cursor) : Step (List Char) :=
  match cur.rest with
  | d :: r => if d.isDigit then digitRun isDecDigit (r.length + 1) [d] (cur.past d r)
    else .error cur.soft
  | [] => .error cur.soft

def exponent (cur : Cursor) : Step (List Char) :=
  match cur.rest with
  | e :: r =>
    if e == 'e' || e == 'E' then
      let (s, c1) := sign (cur.past e r)
      match zeroPrefixableInt c1 with
      | .ok (ds, c2) => .ok (['e'] ++ s.toList ++ ds, c2)
      | .error e => .error e.harden
    else .error cur.soft
  | [] => .error cur.soft

def fraction (cur : Cursor) : Step (List Char) :=
  match cur.rest with
  | '.' :: r =>
    match zeroPrefixableInt (cur.past '.' r) with
    | .ok (ds, c1) => .ok ('.' :: ds, c1)
    | .error e => .error (e.within (.expected "digit")).harden
  | _ => .error cur.soft

def floatText (cur : Cursor) : Step (List Char) :=
  (decInt cur).andThen fun (s, ds) c1 =>
    let whole := s.toList ++ ds
    match exponent c1 with
    | .ok (ex, c2) => .ok (whole ++ ex, c2)
    | .error (.hard f) => .error (.hard f)
    | .error (.soft _) =>
      (fraction c1).andThen fun fr c2 =>
        match exponent c2 with
        | .ok (ex, c3) => .ok (whole ++ fr ++ ex, c3)
        | .error (.hard f) => .error (.hard f)
        | .error (.soft _) => .ok (whole ++ fr, c2)

def positiveInfinity : Float := Float.ofBits 0x7FF0000000000000

def notANumber (negative : Bool) : Float :=
  Float.ofBits (if negative then 0xFFF8000000000000 else 0x7FF8000000000000)

def specialFloat (cur : Cursor) : Step Float :=
  let (s, c1) := sign cur
  let negative := s == some '-'
  if c1.startsWith ['i', 'n', 'f'] then
    .ok (if negative then -positiveInfinity else positiveInfinity, c1.skip ['i', 'n', 'f'])
  else if c1.startsWith ['n', 'a', 'n'] then .ok (notANumber negative, c1.skip ['n', 'a', 'n'])
  else .error c1.soft

def floatOfText (text : List Char) : Float :=
  (Decimal.readDouble (String.ofList text)).getD 0

/-- a float: decimal with a fraction or exponent, or a special value -/
def float (cur : Cursor) : Step Float :=
  let r : Step Float :=
    match floatText cur with
    | .ok (text, c1) =>
      let x := floatOfText text
      if x == positiveInfinity then .error cur.hard else .ok (x, c1)
    | .error (.hard f) => .error (.hard f)
    | .error (.soft _) => specialFloat cur
  match r with
  | .error e => .error (e.within (.label "floating-point number"))
  | ok => ok

def fixedDigits (n : Nat) (cur : Cursor) : Step Nat :=
  let ds := (cur.takeWhile isDecDigit).1.take n
  if ds.length < n then .error cur.soft else .ok (digitsValue 10 ds, cur.skip ds)

def rangedField (lo hi : Nat) (cur : Cursor) : Step Nat :=
  (fixedDigits 2 cur).andThen fun v c1 =>
    if lo ≤ v && v ≤ hi then .ok (v, c1)
    else .error (.soft ⟨cur.offset, [], some "value is out of range"⟩)

def char (ch : Char) (cur : Cursor) : Step Unit :=
  match cur.rest with
  | c :: r => if c == ch then .ok ((), cur.past c r) else .error cur.soft
  | [] => .error cur.soft

def daysInMonth (year month : Nat) : Nat :=
  let leap := year % 4 == 0 && (year % 100 != 0 || year % 400 == 0)
  if month == 2 then (if leap then 29 else 28)
  else if month == 4 || month == 6 || month == 9 || month == 11 then 30 else 31

def fullDate (cur : Cursor) : Step Unit :=
  (fixedDigits 4 cur).andThen fun year c1 =>
    (char '-' c1).andThen fun _ c2 =>
      match rangedField 1 12 c2 with
      | .error e => .error e.harden
      | .ok (month, c3) =>
        match char '-' c3 with
        | .error e => .error e.harden
        | .ok (_, c4) =>
          match rangedField 1 31 c4 with
          | .error e => .error e.harden
          | .ok (day, c5) =>
            if daysInMonth year month < day then
              .error (.hard ⟨c4.offset, [], some "value is out of range"⟩)
            else .ok ((), c5)

def secondFraction (cur : Cursor) : Option Cursor :=
  match cur.rest with
  | '.' :: r =>
    let (ds, c1) := (cur.past '.' r).takeWhile isDecDigit
    if ds.isEmpty then none else some c1
  | _ => none

def partialTime (cur : Cursor) : Step Unit :=
  (rangedField 0 23 cur).andThen fun _ c1 =>
    (char ':' c1).andThen fun _ c2 =>
      let rest : Step Unit :=
        (rangedField 0 59 c2).andThen fun _ c3 =>
          (char ':' c3).andThen fun _ c4 =>
            (rangedField 0 60 c4).andThen fun _ c5 =>
              .ok ((), (secondFraction c5).getD c5)
      match rest with
      | .error e => .error e.harden
      | ok => ok

def timeOffset (cur : Cursor) : Step Unit :=
  let r : Step Unit :=
    match cur.rest with
    | c :: r =>
      if c == 'Z' || c == 'z' then .ok ((), cur.past c r)
      else if c == '+' || c == '-' then
        let body : Step Unit :=
          (rangedField 0 23 (cur.past c r)).andThen fun _ c1 =>
            (char ':' c1).andThen fun _ c2 =>
              (rangedField 0 59 c2).andThen fun _ c3 => .ok ((), c3)
        match body with
        | .error e => .error e.harden
        | ok => ok
      else .error cur.soft
    | [] => .error cur.soft
  match r with
  | .error e => .error (e.within (.label "time offset"))
  | ok => ok

/-- a date with an optional time and offset, or a time of day alone -/
def dateTime (cur : Cursor) : Step Unit :=
  let withDate : Step Unit :=
    (fullDate cur).andThen fun _ c1 =>
      let timed : Step Unit :=
        match c1.rest with
        | d :: r =>
          if d == 'T' || d == 't' || d == ' ' then
            (partialTime (c1.past d r)).andThen fun _ c2 =>
              match timeOffset c2 with
              | .ok r => .ok r
              | .error (.hard f) => .error (.hard f)
              | .error (.soft _) => .ok ((), c2)
          else .error c1.soft
        | [] => .error c1.soft
      match timed with
      | .error (.soft _) => .ok ((), c1)
      | r => r
  match withDate with
  | .error (.soft _) =>
    match partialTime cur with
    | .error e => .error (e.within (.label "time"))
    | ok => ok
  | .error e => .error (e.within (.label "date-time"))
  | ok => ok

def word (w : List Char) (cur : Cursor) : Step Unit :=
  if cur.startsWith w then .ok ((), cur.skip w) else .error cur.hard

end Phrasebook.Toml
