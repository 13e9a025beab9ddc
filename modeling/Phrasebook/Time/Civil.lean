/-!
# The civil calendar

Dates of the proleptic Gregorian calendar, counted in days from 1970-01-01.

* `daysOfCivil y m d`   the day number of a date;
* `Civil.ofDays n`      the date of a day number, the inverse;
* `weekdayOfDays n`     its weekday, `0` for Monday;
* `Civil.valid`         whether a year, month and day name a date.

The conversion works in eras of 400 years (146097 days), within which the calendar repeats,
counting years from March so that the leap day falls at the end of a year.
-/

namespace Phrasebook.Time

def isLeapYear (y : Int) : Bool := y % 4 == 0 && (y % 100 != 0 || y % 400 == 0)

def monthLength (y : Int) (m : Nat) : Nat :=
  match m with
  | 2 => if isLeapYear y then 29 else 28
  | 4 | 6 | 9 | 11 => 30
  | _ => 31

/-- a date of the calendar -/
structure Civil where
  year : Int
  month : Nat
  day : Nat
  deriving Repr, DecidableEq

/-- whether a year, month and day name a date -/
def Civil.valid (c : Civil) : Bool :=
  1 ≤ c.month && c.month ≤ 12 && 1 ≤ c.day && c.day ≤ monthLength c.year c.month

/-- the day number of a date, counted from 1970-01-01 -/
def daysOfCivil (y : Int) (m d : Nat) : Int :=
  let y' : Int := if m ≤ 2 then y - 1 else y
  let era := y' / 400
  let yoe := y' - era * 400
  let mp : Int := if m > 2 then (m : Int) - 3 else (m : Int) + 9
  let doy := (153 * mp + 2) / 5 + (d : Int) - 1
  let doe := yoe * 365 + yoe / 4 - yoe / 100 + doy
  era * 146097 + doe - 719468

def Civil.days (c : Civil) : Int := daysOfCivil c.year c.month c.day

def Civil.ofDays (n : Int) : Civil :=
  let z := n + 719468
  let era := z / 146097
  let doe := z - era * 146097
  let yoe := (doe - doe / 1460 + doe / 36524 - doe / 146096) / 365
  let doy := doe - (365 * yoe + yoe / 4 - yoe / 100)
  let mp := (5 * doy + 2) / 153
  let d := doy - (153 * mp + 2) / 5 + 1
  let m := if mp < 10 then mp + 3 else mp - 9
  let y := yoe + era * 400
  ⟨if m ≤ 2 then y + 1 else y, m.toNat, d.toNat⟩

/-- the weekday of a day number: `0` is Monday and `6` Sunday (1970-01-01 was a Thursday) -/
def weekdayOfDays (n : Int) : Nat := ((n + 3) % 7).toNat

end Phrasebook.Time
