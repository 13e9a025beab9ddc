import Phrasebook.Message.Parse

/-!
# Why a message cannot be formatted

A message fails to format when it cannot be read, or when an argument it needs is missing or
of the wrong kind. No arm can fail to match a message that was read, as every choice read has
an `other` arm; `noMatchingArm` is kept for messages built by hand.
-/

namespace Phrasebook.Message

/-- why a message cannot be formatted -/
inductive FormatError where
  | malformed (e : SyntaxError)
  | missingValue (name : String)
  | notANumber (name value : String)
  | notADate (name value : String)
  | noMatchingArm (name : String)
  deriving Repr, DecidableEq

def FormatError.kind : FormatError → String
  | .malformed _ => "Syntax"
  | .missingValue _ => "MissingValue"
  | .notANumber _ _ => "NotANumber"
  | .notADate _ _ => "NotADate"
  | .noMatchingArm _ => "NoMatchingArm"

def FormatError.message : FormatError → String
  | .malformed e => "syntax error at byte " ++ toString e.offset ++ ": " ++ e.reason.text
  | .missingValue n => "no value provided for argument '" ++ n ++ "'"
  | .notANumber n v => "argument '" ++ n ++ "' is not a number: " ++ v
  | .notADate n v => "argument '" ++ n ++ "' is not a date: " ++ v
  | .noMatchingArm n => "no arm matched for argument '" ++ n ++ "'"

end Phrasebook.Message
