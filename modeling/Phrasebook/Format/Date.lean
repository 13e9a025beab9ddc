import Phrasebook.Time.Pattern
import Phrasebook.Locale.Basic
import Phrasebook.Text.Blank

/-!
# Formatting dates and times

English locales write dates with month names (`1/15/24`, `Jan 15, 2024`, `January 15, 2024`,
`Monday, January 15, 2024`) and times on a twelve-hour clock (`3:45 PM`, `3:45:30 PM`,
`3:45:30 PM UTC`); every other locale writes `2024-01-15` and `15:45`, `15:45:30`,
`15:45:30 UTC`. All instants are shown in UTC.
-/

namespace Phrasebook.Format

open Time

/-- how much of a date or time is written -/
inductive DateStyle where
  | short | medium | long | full
  deriving Repr, DecidableEq

def DateStyle.ofStyle : Option String → DateStyle
  | some s =>
    let s := Text.trimBlanks s
    if s = "short" then .short else if s = "long" then .long
    else if s = "full" then .full else .medium
  | none => .medium

def isEnglish (l : Locale) : Bool := l.language == "en"

def datePattern (english : Bool) (style : DateStyle) : Pattern :=
  if english then
    match style with
    | .short => [.field .monthBare, .text "/", .field .dayBare, .text "/", .field .yearOfCentury]
    | .medium => [.field .monthShort, .text " ", .field .dayBare, .text ", ", .field .year]
    | .long => [.field .monthLong, .text " ", .field .dayBare, .text ", ", .field .year]
    | .full => [.field .weekdayLong, .text ", ", .field .monthLong, .text " ", .field .dayBare,
        .text ", ", .field .year]
  else [.field .year, .text "-", .field .month, .text "-", .field .day]

def timePattern (english : Bool) (style : DateStyle) : Pattern :=
  let clock : Pattern := if english then [.field .hourOfHalfBare, .text ":", .field .minute]
    else [.field .hour, .text ":", .field .minute]
  let withSeconds := clock ++ [.text ":", .field .second]
  let meridiem : Pattern := if english then [.text " ", .field .meridiem] else []
  match style with
  | .short => clock ++ meridiem
  | .medium => withSeconds ++ meridiem
  | _ => withSeconds ++ meridiem ++ [.text " UTC"]

def formatDate (l : Locale) (t : Instant) (style : DateStyle) : String :=
  (datePattern (isEnglish l) style).render t

def formatTime (l : Locale) (t : Instant) (style : DateStyle) : String :=
  (timePattern (isEnglish l) style).render t

end Phrasebook.Format
