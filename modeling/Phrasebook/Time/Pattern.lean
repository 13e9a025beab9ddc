import Phrasebook.Time.Instant

/-!
# Date and time patterns

A pattern is a list of pieces: fixed text, or a field of an instant written in a fixed way.
`Pattern.render` writes an instant by a pattern, in UTC and with English names.

Numbers are written in decimal; the padded fields use two digits, the year four digits, and a
year outside 0 to 9999 its sign and at least four digits.
-/

namespace Phrasebook.Time

/-- a field of an instant, with the way it is written -/
inductive Field where
  /-- the year, as `yearText` writes it -/
  | year
  /-- the last two digits of the year (of the year counted up from a multiple of 100) -/
  | yearOfCentury
  /-- the month, two digits -/
  | month
  /-- the month, as few digits as needed -/
  | monthBare
  /-- the three-letter name of the month -/
  | monthShort
  /-- the name of the month -/
  | monthLong
  /-- the day of the month, two digits -/
  | day
  /-- the day of the month, as few digits as needed -/
  | dayBare
  /-- the name of the weekday -/
  | weekdayLong
  /-- the hour from 00 to 23 -/
  | hour
  /-- the hour from 1 to 12, as few digits as needed -/
  | hourOfHalfBare
  /-- the minute, two digits -/
  | minute
  /-- the second, two digits -/
  | second
  /-- `AM` before noon and `PM` from noon -/
  | meridiem
  deriving Repr, DecidableEq

/-- a piece of a pattern -/
inductive Piece where
  | text (s : String)
  | field (f : Field)
  deriving Repr, DecidableEq

/-- a pattern: its pieces in order -/
abbrev Pattern := List Piece

def monthNames : List String :=
  ["January", "February", "March", "April", "May", "June", "July", "August", "September",
    "October", "November", "December"]

def weekdayNames : List String :=
  ["Monday", "Tuesday", "Wednesday", "Thursday", "Friday", "Saturday", "Sunday"]

/-- how a field of an instant is written -/
def Field.render (t : Instant) : Field → String
  | .year => yearText t.civil.year
  | .yearOfCentury => padded 2 (t.civil.year % 100).toNat
  | .month => padded 2 t.civil.month
  | .monthBare => toString t.civil.month
  | .monthShort => String.ofList ((monthNames.getD (t.civil.month - 1) "").toList.take 3)
  | .monthLong => monthNames.getD (t.civil.month - 1) ""
  | .day => padded 2 t.civil.day
  | .dayBare => toString t.civil.day
  | .weekdayLong => weekdayNames.getD t.weekday ""
  | .hour => padded 2 t.hour
  | .hourOfHalfBare => toString ((t.hour + 11) % 12 + 1)
  | .minute => padded 2 t.minute
  | .second => padded 2 t.second
  | .meridiem => if t.hour < 12 then "AM" else "PM"

/-- writes an instant by a pattern -/
def Pattern.render (p : Pattern) (t : Instant) : String :=
  String.join (p.map fun
    | .text s => s
    | .field f => f.render t)

end Phrasebook.Time
