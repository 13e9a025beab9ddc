import Phrasebook.Message.Error
import Phrasebook.Format.Number
import Phrasebook.Format.Date
import Phrasebook.Value.Values
import Phrasebook.Time.Rfc3339

/-!
# Evaluating messages

`evaluate m l args` writes a message for a locale, left to right:

* literal text as it is, and `{name}` as the text of its value;
* a number, date or time argument by the locale's format, in its style;
* a plural choice with value `v` and offset `o` takes the first arm `=x` with `x = v`, else the
  arm of the category of `v - o` under the locale's rules, else `other`; inside it `#` is
  `v - o` as a decimal number;
* a value choice takes the arm named by the text of its value, else `other`.

The first failing element decides the error.
-/

namespace Phrasebook.Message

open Format

/-- what a message is evaluated against -/
structure Context where
  locale : Locale
  args : Table Scalar

def i64Max : Int := 9223372036854775807

def i64Min : Int := -9223372036854775808

def saturatingToInt (x : Float) : Int :=
  match Decimal.DoubleKind.of x with
  | .nan => 0
  | .infinity negative => if negative then i64Min else i64Max
  | .finite d =>
    let magnitude : Nat :=
      if d.exponent ≥ 0 then d.significand * Nat.pow 2 d.exponent.toNat
      else d.significand / Nat.pow 2 d.exponent.natAbs
    let v : Int := if d.negative then -(magnitude : Int) else magnitude
    max i64Min (min i64Max v)

namespace Context

def arg (c : Context) (name : String) : Except FormatError Scalar :=
  match c.args.get? name with
  | some s => .ok s
  | none => .error (.missingValue name)

def numberArg (c : Context) (name : String) : Except FormatError Float := do
  let s ← c.arg name
  match s.asNumber with
  | some x => pure x
  | none => throw (.notANumber name s.display)

def instantOf : Scalar → Option Time.Instant
  | .date t => some t
  | .int ms => Time.Instant.ofMillis? ms.toInt
  | .float ms => if ms.isFinite then Time.Instant.ofMillis? (saturatingToInt ms) else none
  | .str s =>
    match Time.readRfc3339 (Text.trimBlanks s) with
    | .ok t => some t
    | .error _ => none
  | .bool _ => none

def dateArg (c : Context) (name : String) : Except FormatError Time.Instant := do
  let s ← c.arg name
  match instantOf s with
  | some t => pure t
  | none => throw (.notADate name s.display)

end Context

def Selector.isKeyword (k : String) : Selector → Bool
  | .keyword k' => k' == k
  | .exact _ => false

def Selector.isExact (x : Float) : Selector → Bool
  | .exact y => y == x
  | .keyword _ => false

mutual

def evalMessage (c : Context) (pound : Option Float) : List Element → Except FormatError String
  | [] => .ok ""
  | e :: es => do
    let a ← evalElement c pound e
    let b ← evalMessage c pound es
    pure (a ++ b)

def evalElement (c : Context) (pound : Option Float) : Element → Except FormatError String
  | .literal t => .ok t
  | .argument name => do
    let s ← c.arg name
    pure s.display
  | .number name style => do
    let x ← c.numberArg name
    pure (formatNumber c.locale x (NumberStyle.ofStyle style))
  | .date name style => do
    let t ← c.dateArg name
    pure (formatDate c.locale t (DateStyle.ofStyle style))
  | .time name style => do
    let t ← c.dateArg name
    pure (formatTime c.locale t (DateStyle.ofStyle style))
  | .plural name kind offset arms =>
    match c.numberArg name with
    | .error e => .error e
    | .ok v =>
      let adjusted := v - offset
      let category := (Plural.categoryFor c.locale kind adjusted).name
      match evalFirst c (some adjusted) (Selector.isExact v) arms with
      | some r => r
      | none =>
        match evalFirst c (some adjusted) (Selector.isKeyword category) arms with
        | some r => r
        | none =>
          match evalFirst c (some adjusted) (Selector.isKeyword "other") arms with
          | some r => r
          | none => .error (.noMatchingArm name)
  | .select name arms =>
    match c.arg name with
    | .error e => .error e
    | .ok s =>
      match evalFirst c pound (Selector.isKeyword s.display) arms with
      | some r => r
      | none =>
        match evalFirst c pound (Selector.isKeyword "other") arms with
        | some r => r
        | none => .error (.noMatchingArm name)
  | .pound =>
    match pound with
    | some n => .ok (formatNumber c.locale n .decimal)
    | none => .ok "#"

def evalFirst (c : Context) (pound : Option Float) (test : Selector → Bool) :
    List Arm → Option (Except FormatError String)
  | [] => none
  | .mk s m :: rest =>
    if test s then some (evalMessage c pound m) else evalFirst c pound test rest

end

/-- writes a message for a locale with the given arguments -/
def evaluate (m : Msg) (l : Locale) (args : Table Scalar) : Except FormatError String :=
  evalMessage ⟨l, args⟩ none m

def tryFormat (template : String) (l : Locale) (vs : Values) : Except FormatError String :=
  match parse template with
  | .error e => .error (.malformed e)
  | .ok m => evaluate m l vs.scalars

def formatOrKeep (template : String) (l : Locale) (vs : Values) : String :=
  match tryFormat template l vs with
  | .ok s => s
  | .error _ => template

end Phrasebook.Message
