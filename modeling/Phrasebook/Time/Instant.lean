import Phrasebook.Time.Civil

/-!
# Instants

An instant is a count of seconds from 1970-01-01T00:00:00 UTC with a nanosecond part. The
nanosecond part reaches past `10^9` only on a leap second, which is then read as the sixtieth
second of the minute of `seconds`.

Instants exist from -262143-01-01T00:00:00 to 262142-12-31T23:59:59.999999999.

* `Instant.ofMillis?`  the instant a count of milliseconds names, if it is in range;
* `Instant.civil`, `hour`, `minute`, `second`   its fields in UTC;
* `Instant.rfc3339`    its RFC 3339 text in UTC, with `+00:00` and as many fraction digits as
                       the nanoseconds need in groups of three.
-/

namespace Phrasebook.Time

/-- a point in time, in UTC -/
structure Instant where
  seconds : Int
  nanos : Nat
  deriving Repr, DecidableEq

def firstDay : Int := daysOfCivil (-262143) 1 1

def lastDay : Int := daysOfCivil 262142 12 31

def inRange (seconds : Int) : Bool :=
  let day := seconds / 86400
  firstDay ≤ day && day ≤ lastDay

/-- the instant a count of milliseconds names -/
def Instant.ofMillis? (ms : Int) : Option Instant :=
  let seconds := ms / 1000
  if inRange seconds then some ⟨seconds, (ms % 1000).toNat * 1000000⟩ else none

def Instant.day (t : Instant) : Int := t.seconds / 86400

def Instant.secondOfDay (t : Instant) : Nat := (t.seconds % 86400).toNat

/-- the date of an instant -/
def Instant.civil (t : Instant) : Civil := Civil.ofDays t.day

/-- the hour, from 0 to 23 -/
def Instant.hour (t : Instant) : Nat := t.secondOfDay / 3600

/-- the minute, from 0 to 59 -/
def Instant.minute (t : Instant) : Nat := t.secondOfDay % 3600 / 60

/-- the second, from 0 to 60 (60 on a leap second) -/
def Instant.second (t : Instant) : Nat := t.secondOfDay % 60 + t.nanos / 1000000000

def Instant.subsecond (t : Instant) : Nat := t.nanos % 1000000000

def Instant.weekday (t : Instant) : Nat := weekdayOfDays t.day

def padded (width : Nat) (n : Nat) : String :=
  let s := toString n
  String.ofList (List.replicate (width - s.length) '0') ++ s

def yearText (y : Int) : String :=
  if 0 ≤ y ∧ y ≤ 9999 then padded 4 y.toNat
  else (if y < 0 then "-" else "+") ++ padded 4 y.natAbs

def fractionText (nanos : Nat) : String :=
  if nanos = 0 then ""
  else if nanos % 1000000 = 0 then "." ++ padded 3 (nanos / 1000000)
  else if nanos % 1000 = 0 then "." ++ padded 6 (nanos / 1000)
  else "." ++ padded 9 nanos

/-- the RFC 3339 text of an instant, in UTC -/
def Instant.rfc3339 (t : Instant) : String :=
  let c := t.civil
  yearText c.year ++ "-" ++ padded 2 c.month ++ "-" ++ padded 2 c.day ++ "T" ++
    padded 2 t.hour ++ ":" ++ padded 2 t.minute ++ ":" ++ padded 2 t.second ++
    fractionText t.subsecond ++ "+00:00"

end Phrasebook.Time
