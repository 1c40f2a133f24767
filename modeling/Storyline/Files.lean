/-!
# Files that cannot be used

The ways in which reading or writing a file fails, with the texts of the system, and errors as
chains of messages: the outermost says what was being done, and each of the others why the one
before it failed.
-/

namespace Storyline

/-- Why a file cannot be read or written. -/
inductive FileError where
  /-- There is no such file or directory. -/
  | notFound
  /-- A file stands where a directory should be made. -/
  | exists
  /-- A part of the path is no directory. -/
  | notDirectory
  /-- There is a directory of that name. -/
  | isDirectory
  /-- A part of the path is too long. -/
  | nameTooLong
  /-- The file holds no text. -/
  | notText
  /-- Anything else, as the system puts it. -/
  | other (text : String)
  deriving DecidableEq

/-- The text of the system for an error. -/
def FileError.message : FileError → String
  | notFound => "No such file or directory (os error 2)"
  | .exists => "File exists (os error 17)"
  | notDirectory => "Not a directory (os error 20)"
  | isDirectory => "Is a directory (os error 21)"
  | nameTooLong => "File name too long (os error 36)"
  | notText => "stream did not contain valid UTF-8"
  | other text => text

/-- The messages of an error, the outermost first. -/
abbrev Causes := List String

/-- An error on one line. -/
def Causes.line (causes : Causes) : String := String.intercalate ": " causes

/-- A message with another start for all lines but the first. -/
def continuedLines (start message : String) : String :=
  String.intercalate ("\n" ++ start) (message.splitOn "\n")

/-- The causes of an error from a number on, one below the other. -/
def numberedCauses : Nat → Causes → String
  | _, [] => ""
  | n, cause :: rest =>
    let number := toString n
    "\n" ++ String.ofList (List.replicate (5 - number.length) ' ') ++ number ++ ": " ++
      continuedLines "       " cause ++ numberedCauses (n + 1) rest

/-- An error in full: its message, and below it the causes, with numbers if there are several. -/
def Causes.report : Causes → String
  | [] => "Error: \n"
  | [message] => "Error: " ++ message ++ "\n"
  | [message, cause] =>
    "Error: " ++ message ++ "\n\nCaused by:\n    " ++ continuedLines "    " cause ++ "\n"
  | message :: causes =>
    "Error: " ++ message ++ "\n\nCaused by:" ++ numberedCauses 0 causes ++ "\n"

/-- A result with one more message around its error. -/
def within {α : Type} (context : String) : Except Causes α → Except Causes α
  | .ok a => .ok a
  | .error causes => .error (context :: causes)

end Storyline
