import Storyline.Numeral
import Storyline.Text.AsciiCase
import Storyline.Text.Blank
import Storyline.Text.Split

/-!
# Conditions

A condition is a short expression: blank (always true), the name of a switch, or a comparison such
as `courage >= 30` or `door == open`. A comparison is split at the operator that comes first in
the list `Operator.all`, not at the one that stands first in the text; two-character operators
precede the single characters that they begin with, so `a >= 1` is not read as `a > (= 1)`.

Ordering operators take a whole number on the right. Equality takes a truth value, a whole number
or a text, whichever the right side can be read as first.
-/

namespace Storyline

/-- The operators of a comparison. -/
inductive Operator where
  | greaterOrEqual
  | lessOrEqual
  | greater
  | less
  | equal
  | notEqual
  deriving DecidableEq, Repr

namespace Operator

/-- The operators in the order in which an expression is searched for them. -/
def all : List Operator := [greaterOrEqual, lessOrEqual, greater, less, equal, notEqual]

/-- How an operator is written. -/
def token : Operator → String
  | greaterOrEqual => ">="
  | lessOrEqual => "<="
  | greater => ">"
  | less => "<"
  | equal => "=="
  | notEqual => "!="

/-- Whether an operator compares by order. -/
def isOrdering : Operator → Bool
  | equal | notEqual => false
  | _ => true

/-- Whether an operator holds between two integers. -/
def compare : Operator → Int32 → Int32 → Bool
  | greaterOrEqual, a, b => b ≤ a
  | lessOrEqual, a, b => a ≤ b
  | greater, a, b => b < a
  | less, a, b => a < b
  | equal, a, b => a == b
  | notEqual, a, b => a != b

/-- The first operator of the list that stands in an expression, with what is before and after the
first place where it stands. -/
def search (expr : List Char) : Option (Operator × List Char × List Char) :=
  all.findSome? fun op ↦ (Text.splitAtFirst? op.token.toList expr).map fun p ↦ (op, p)

end Operator

/-- The right side of a comparison. -/
inductive Operand where
  | bool (b : Bool)
  | int (n : Int32)
  | text (s : String)
  deriving DecidableEq

namespace Operand

/-- The operand of an equality that a text stands for: a truth value in any ASCII case, else a
whole number, else the text itself. -/
def ofText (raw : List Char) : Operand :=
  let s := String.ofList raw
  if Text.sameText s "true" then .bool true
  else if Text.sameText s "false" then .bool false
  else match Numeral.readInt32? raw with
    | some n => .int n
    | none => .text s

/-- An operand as it is written in an expression. -/
def display : Operand → String
  | .bool b => if b then "true" else "false"
  | .int n => Numeral.plain n.toInt
  | .text s => s

end Operand

/-- Why an expression is no condition. -/
inductive ConditionError where
  /-- A comparison without a variable. -/
  | missingVariable (op : Operator)
  /-- A comparison without a value. -/
  | missingValue (op : Operator)
  /-- An ordering comparison with something that is no whole number. -/
  | notAnInteger (op : Operator) (found : String)
  deriving DecidableEq

/-- The message for an expression that is no condition. -/
def ConditionError.message : ConditionError → String
  | .missingVariable op => "missing variable name before '" ++ op.token ++ "'"
  | .missingValue op => "missing value after '" ++ op.token ++ "'"
  | .notAnInteger op found => "'" ++ op.token ++ "' needs an integer, found '" ++ found ++ "'"

/-- A condition. -/
inductive Condition where
  /-- True in every store. -/
  | always
  /-- True where the named switch is on. -/
  | flag (name : String)
  /-- True where the comparison of a variable with an operand holds. -/
  | compare (key : String) (op : Operator) (rhs : Operand)
  deriving DecidableEq

namespace Condition

/-- The comparison with the given sides, blanks around them removed. -/
def comparison (op : Operator) (left right : List Char) : Except ConditionError Condition :=
  if left.isEmpty then .error (.missingVariable op)
  else if right.isEmpty then .error (.missingValue op)
  else if op.isOrdering then
    match Numeral.readInt32? right with
    | some n => .ok (.compare (String.ofList left) op (.int n))
    | none => .error (.notAnInteger op (String.ofList right))
  else .ok (.compare (String.ofList left) op (.ofText right))

/-- Reads an expression. -/
def parse (expression : String) : Except ConditionError Condition :=
  let expr := Text.trimChars expression.toList
  if expr.isEmpty then .ok .always
  else match Operator.search expr with
    | none => .ok (.flag (String.ofList expr))
    | some (op, left, right) => comparison op (Text.trimChars left) (Text.trimChars right)

/-- A condition as an expression. -/
def display : Condition → String
  | .always => ""
  | .flag name => name
  | .compare key op rhs => key ++ " " ++ op.token ++ " " ++ rhs.display

end Condition

end Storyline
