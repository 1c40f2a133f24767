import Storyline.Condition.Basic
import Storyline.Store.Basic

/-!
# Conditions in a store

`Condition.holds` says whether a condition is true in a store. `evaluate` does so for an
expression; one that is no condition is logged and counts as false, so that broken content hides a
choice rather than showing it.
-/

namespace Storyline

namespace Condition

/-- Whether a variable equals an operand; the kind of the operand decides which map is read, and
texts are compared without regard to ASCII case. -/
def equals (store : Store) (key : String) : Operand → Bool
  | .bool b => store.getBool key == b
  | .int n => store.getInt key == n
  | .text s => Text.sameText (store.getString key) s

/-- Whether a condition is true in a store. An ordering against anything but an integer is not. -/
def holds (store : Store) : Condition → Bool
  | .always => true
  | .flag name => store.getBool name
  | .compare key .equal rhs => equals store key rhs
  | .compare key .notEqual rhs => !equals store key rhs
  | .compare key op (.int n) => op.compare (store.getInt key) n
  | .compare _ _ _ => false

/-- Whether an expression is true in a store. -/
def evaluate {α : Type} (store : Store) (expression : String) : Told α Bool :=
  match parse expression with
  | .ok c => pure (c.holds store)
  | .error e => do
    Told.log .warn
      ("condition \"" ++ expression ++ "\" could not be evaluated: " ++ e.message)
    pure false

/-- Whether an optional expression is true in a store; none at all is. -/
def evaluateOptional {α : Type} (store : Store) : Option String → Told α Bool
  | none => pure true
  | some expression => evaluate store expression

end Condition

end Storyline
