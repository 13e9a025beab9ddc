import Phrasebook.Time.Instant

/-!
# Reading RFC 3339 timestamps

`readRfc3339` reads `YYYY-MM-DDTHH:MM:SS[.fraction](Z|±HH:MM)` into the instant it names in
UTC. The separator may also be `t` or a space, the zone `z`, and the minus sign of the offset
U+2212. Fraction digits past the ninth are read and dropped. Second 60 is a leap second.

A text shorter than `YYYY-MM-DDTHH:MM:SS`, nineteen bytes, ends prematurely before any field is
read (`readRfc3339_of_short`): no such text names an instant, so this only decides which fault
is named. Otherwise faults are reported as the first problem met from left to right, where the
fields are first read as digits and then checked as wholes: the date against the calendar once
its day is read, and the time of day once its fraction is read, before the zone. The offset is
checked against its range last, after trailing input is refused, as it is only a range check on
a zone that was read whole. Lengths are counted in UTF-8 bytes, as the text is scanned byte by
byte.
-/

namespace Phrasebook.Time

/-- why a timestamp cannot be read -/
inductive DateProblem where
  | outOfRange
  | impossible
  | notEnough
  | invalid
  | tooShort
  | tooLong
  deriving Repr, DecidableEq

def DateProblem.text : DateProblem → String
  | .outOfRange => "input is out of range"
  | .impossible => "no possible date and time matching input"
  | .notEnough => "input is not enough for unique date and time"
  | .invalid => "input contains invalid characters"
  | .tooShort => "premature end of input"
  | .tooLong => "trailing input"

def byteLength (cs : List Char) : Nat := (String.ofList cs).utf8ByteSize

def shortestLength : Nat := 19

def digitValue (ds : List Char) : Nat :=
  ds.foldl (fun acc c => acc * 10 + (c.toNat - '0'.toNat)) 0

def readFixed (n : Nat) (cs : List Char) : Except DateProblem (Nat × List Char) :=
  if byteLength cs < n then .error .tooShort
  else if (cs.take n).all Char.isDigit then .ok (digitValue (cs.take n), cs.drop n)
  else .error .invalid

def readMark (c : Char) (cs : List Char) : Except DateProblem (List Char) :=
  match cs with
  | d :: rest => if d == c then .ok rest else .error .invalid
  | [] => .error .tooShort

def readFraction (cs : List Char) : Except DateProblem (Nat × List Char) :=
  match cs with
  | [] => .error .tooShort
  | c :: _ =>
    if !c.isDigit then .error .invalid
    else
      let ds := (cs.takeWhile Char.isDigit).take 9
      .ok (digitValue ds * Nat.pow 10 (9 - ds.length), (cs.drop ds.length).dropWhile Char.isDigit)

def offsetDigits (cs : List Char) : Option (Char × Char) :=
  match cs with
  | a :: b :: _ => some (a, b)
  | [a] => if a.utf8Size ≥ 2 then some (a, a) else none
  | [] => none

def readZone (cs : List Char) : Except DateProblem (Int × List Char) :=
  match cs with
  | 'Z' :: rest | 'z' :: rest => .ok (0, rest)
  | c :: rest =>
    if c == '+' || c == '-' || c == '−' then
      let negative := c != '+'
      match offsetDigits rest with
      | none => .error .tooShort
      | some (h1, h2) =>
        if !(h1.isDigit && h2.isDigit) then .error .invalid
        else
          let hours := digitValue [h1, h2]
          match readMark ':' (rest.drop 2) with
          | .error e => .error e
          | .ok afterColon =>
            match offsetDigits afterColon with
            | none => .error .tooShort
            | some (m1, m2) =>
              if m1.isDigit && m2.isDigit then
                if m1.toNat ≥ '6'.toNat then .error .outOfRange
                else
                  let total : Int := (hours * 3600 + digitValue [m1, m2] * 60 : Nat)
                  .ok (if negative then -total else total, afterColon.drop 2)
              else .error .invalid
    else .error .invalid
  | [] => .error .tooShort

def maxOffset : Int := (23 * 60 + 59) * 60

/-- the date and time written by a timestamp, before it is checked against the calendar -/
structure Stamp where
  year : Nat
  month : Nat
  day : Nat
  hour : Nat
  minute : Nat
  second : Nat
  nanos : Nat
  offset : Int

def timeValid (hour minute second : Nat) : Bool := hour ≤ 23 && minute ≤ 59 && second ≤ 60

def readStamp (cs : List Char) : Except DateProblem Stamp := do
  if byteLength cs < shortestLength then throw .tooShort
  let (year, cs) ← readFixed 4 cs
  let cs ← readMark '-' cs
  let (month, cs) ← readFixed 2 cs
  let cs ← readMark '-' cs
  let (day, cs) ← readFixed 2 cs
  if !(Civil.valid ⟨year, month, day⟩) then throw .outOfRange
  let cs ← match cs with
    | c :: rest => if c == 'T' || c == 't' || c == ' ' then pure rest else throw .invalid
    | [] => throw .tooShort
  let (hour, cs) ← readFixed 2 cs
  let cs ← readMark ':' cs
  let (minute, cs) ← readFixed 2 cs
  let cs ← readMark ':' cs
  let (second, cs) ← readFixed 2 cs
  let (nanos, cs) ← match cs with
    | '.' :: rest => readFraction rest
    | _ => pure (0, cs)
  if !timeValid hour minute second then throw .outOfRange
  let (offset, cs) ← readZone cs
  if !cs.isEmpty then throw .tooLong
  if offset < -maxOffset ∨ offset > maxOffset then throw .outOfRange
  pure ⟨year, month, day, hour, minute, second, nanos, offset⟩

def Stamp.toInstant (s : Stamp) : Instant :=
  let leap := s.second = 60
  let second := if leap then 59 else s.second
  let wall := daysOfCivil s.year s.month s.day * 86400 + (s.hour * 3600 + s.minute * 60 + second : Nat)
  ⟨wall - s.offset, if leap then s.nanos + 1000000000 else s.nanos⟩

/-- reads an RFC 3339 timestamp into the instant it names -/
def readRfc3339 (s : String) : Except DateProblem Instant :=
  (readStamp s.toList).map Stamp.toInstant

theorem readStamp_of_short {cs : List Char} (h : byteLength cs < shortestLength) :
    readStamp cs = .error .tooShort := by
  simp [readStamp, h]
  rfl

/-- a text shorter than the shortest timestamp is reported as ending prematurely, whatever
its characters are -/
theorem readRfc3339_of_short {s : String} (h : s.utf8ByteSize < shortestLength) :
    readRfc3339 s = .error .tooShort := by
  have hs : byteLength s.toList < shortestLength := by
    simpa [byteLength] using h
  simp only [readRfc3339, readStamp_of_short hs]
  rfl

end Phrasebook.Time
