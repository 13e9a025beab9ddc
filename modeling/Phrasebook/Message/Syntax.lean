import Phrasebook.Plural.Select

/-!
# Message syntax

A message is a list of elements: literal text, a plain argument `{name}`, a formatted argument
`{name, number|date|time[, style]}`, a plural or ordinal choice
`{name, plural|selectordinal, [offset:k] arms}`, a choice by value `{name, select, arms}`, and
`#`, the number of the nearest plural choice. An arm is a selector (`=x` or a keyword) and the
message it selects.
-/

namespace Phrasebook.Message

/-- what an arm answers to: an exact number, or a keyword (a plural category or a value) -/
inductive Selector where
  | exact (x : Float)
  | keyword (k : String)

def Selector.same : Selector → Selector → Bool
  | .exact x, .exact y => x == y
  | .keyword a, .keyword b => a == b
  | _, _ => false

mutual

/-- one element of a message -/
inductive Element where
  | literal (text : String)
  | argument (name : String)
  | number (name : String) (style : Option String)
  | date (name : String) (style : Option String)
  | time (name : String) (style : Option String)
  | plural (name : String) (kind : Plural.Kind) (offset : Float) (arms : List Arm)
  | select (name : String) (arms : List Arm)
  | pound

/-- a selector and the message it selects -/
inductive Arm where
  | mk (selector : Selector) (message : List Element)

end

/-- a message: its elements in order -/
abbrev Msg := List Element

def Arm.selector : Arm → Selector
  | .mk s _ => s

def Arm.message : Arm → List Element
  | .mk _ m => m

def findKeyword (arms : List Arm) (k : String) : Option Arm :=
  arms.find? fun a => match a.selector with
    | .keyword k' => k' == k
    | .exact _ => false

def findExact (arms : List Arm) (x : Float) : Option Arm :=
  arms.find? fun a => match a.selector with
    | .exact y => y == x
    | .keyword _ => false

end Phrasebook.Message
