import Storyline.Numeral
import Storyline.Text.AsciiCase
import Storyline.Text.Blank
import Storyline.Text.Split

/-!
# Commands

Entering or leaving a node runs commands, which are authored as `type:parameter`. The type is read
in any ASCII case, and blanks around either part do not count.

* `item:id` grants an item,
* `flag:name` and `unflag:name` turn a switch on and off,
* `var:name+n` and `var:name-n` add to an integer variable and subtract from it,
* `ending:label` keeps the label of the ending that was reached.

An adjustment is split at its first `+`; only where there is none, at its last `-`, so that names
may contain hyphens.
-/

namespace Storyline

/-- The types of commands. -/
inductive CommandKind where
  | item
  | flag
  | unflag
  | var
  | ending
  deriving DecidableEq, Repr

namespace CommandKind

/-- All types. -/
def all : List CommandKind := [item, flag, unflag, var, ending]

/-- How a type is written. -/
def word : CommandKind → String
  | item => "item"
  | flag => "flag"
  | unflag => "unflag"
  | var => "var"
  | ending => "ending"

/-- The type that a word stands for. -/
def ofWord? (s : String) : Option CommandKind := all.find? fun k ↦ Text.sameText k.word s

end CommandKind

/-- A command. -/
inductive Command where
  /-- Grants an item. -/
  | giveItem (id : String)
  /-- Turns a switch on. -/
  | setFlag (name : String)
  /-- Turns a switch off. -/
  | clearFlag (name : String)
  /-- Adds to an integer variable. -/
  | adjustVar (key : String) (delta : Int32)
  /-- Keeps the label of an ending. -/
  | recordEnding (label : String)
  deriving DecidableEq

/-- Why a text is no command. -/
inductive CommandError where
  /-- There is no colon. -/
  | missingSeparator (raw : String)
  /-- The word before the colon is no type. -/
  | unknownType (word : String)
  /-- Nothing follows the colon. -/
  | missingParameter (kind : CommandKind)
  /-- An adjustment without a name or a number. -/
  | badAdjustment (parameter : String)
  deriving DecidableEq

/-- The message for a text that is no command. -/
def CommandError.message : CommandError → String
  | .missingSeparator raw => "expected 'type:param', found '" ++ raw ++ "'"
  | .unknownType word => "unrecognized command type '" ++ word ++ "'"
  | .missingParameter kind => "'" ++ kind.word ++ "' command needs a parameter"
  | .badAdjustment parameter =>
    "'" ++ parameter ++ "' is not a valid 'var' adjustment (expected name+N or name-N)"

namespace Command

/-- The opposite of a 32-bit integer; the least one has none. -/
def negate? (n : Int32) : Option Int32 := Numeral.int32? (-n.toInt)

/-- The name and the amount of an adjustment, as they are authored. -/
def splitAdjustment? (param : List Char) : Option (List Char × Int32) :=
  match Text.splitAtFirst? ['+'] param with
  | some (key, amount) => (Numeral.readInt32? (Text.trimChars amount)).map (key, ·)
  | none =>
    match Text.splitAtLast? '-' param with
    | some (key, amount) =>
      ((Numeral.readInt32? (Text.trimChars amount)).bind negate?).map (key, ·)
    | none => none

/-- The adjustment that a parameter stands for. -/
def adjustment (param : List Char) : Except CommandError Command :=
  match splitAdjustment? param with
  | some (key, delta) =>
    let key := Text.trimChars key
    if key.isEmpty then .error (.badAdjustment (String.ofList param))
    else .ok (.adjustVar (String.ofList key) delta)
  | none => .error (.badAdjustment (String.ofList param))

/-- The command of a type with a parameter, blanks around it removed. -/
def ofKind (kind : CommandKind) (param : List Char) : Except CommandError Command :=
  if param.isEmpty then .error (.missingParameter kind)
  else match kind with
    | .item => .ok (.giveItem (String.ofList param))
    | .flag => .ok (.setFlag (String.ofList param))
    | .unflag => .ok (.clearFlag (String.ofList param))
    | .var => adjustment param
    | .ending => .ok (.recordEnding (String.ofList param))

/-- Reads a command. -/
def parse (raw : String) : Except CommandError Command :=
  let text := Text.trimChars raw.toList
  match Text.splitAtFirst? [':'] text with
  | none => .error (.missingSeparator (String.ofList text))
  | some (word, param) =>
    let word := String.ofList (Text.trimChars word)
    match CommandKind.ofWord? word with
    | none => .error (.unknownType word)
    | some kind => ofKind kind (Text.trimChars param)

/-- A command as a text. -/
def display : Command → String
  | .giveItem id => "item:" ++ id
  | .setFlag name => "flag:" ++ name
  | .clearFlag name => "unflag:" ++ name
  | .adjustVar key delta => "var:" ++ key ++ Numeral.signed delta.toInt
  | .recordEnding label => "ending:" ++ label

end Command

end Storyline
