/-!
# Input and output errors

The failures of reading files and directories, with the texts the operating system gives them.
-/

namespace Phrasebook

/-- why a file or directory could not be read -/
inductive IoError where
  | notFound
  | notADirectory
  | isADirectory
  | invalidUtf8
  | custom (text : String)
  deriving Repr, DecidableEq

def IoError.text : IoError → String
  | .notFound => "No such file or directory (os error 2)"
  | .notADirectory => "Not a directory (os error 20)"
  | .isADirectory => "Is a directory (os error 21)"
  | .invalidUtf8 => "stream did not contain valid UTF-8"
  | .custom t => t

end Phrasebook
