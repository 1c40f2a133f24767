import Storyline.Command.Basic
import Storyline.Condition.Basic
import Storyline.Tree.Basic

/-!
# Broken conditions and commands

A condition or command that cannot be read does not stop a tree from being played: the engine
hides the choice or skips the command. `Tree.lint` lists them as warnings for the author.
-/

namespace Storyline

/-- A condition or a command that cannot be read, with its place in the tree. -/
inductive Warning where
  /-- A command of a node. -/
  | command (node raw : String) (error : CommandError)
  /-- A condition of the choice at a position of a node. -/
  | condition (node : String) (choice : Nat) (expression : String) (error : ConditionError)
  deriving DecidableEq

/-- The text of a warning. -/
def Warning.message : Warning → String
  | .command node raw error =>
    "node '" ++ node ++ "' command \"" ++ raw ++ "\": " ++ error.message
  | .condition node choice expression error =>
    "node '" ++ node ++ "' choice " ++ Numeral.decimal choice ++ " condition \"" ++ expression ++
      "\": " ++ error.message

namespace Lint

/-- The warning for a command, if it cannot be read. -/
def command? (node raw : String) : Option Warning :=
  match Command.parse raw with
  | .ok _ => none
  | .error e => some (.command node raw e)

/-- The warning for a condition, if it cannot be read. -/
def condition? (node : String) (choice : Nat) (expression : String) : Option Warning :=
  match Condition.parse expression with
  | .ok _ => none
  | .error e => some (.condition node choice expression e)

/-- The conditions of a choice: its own, then those of its impacts. -/
def conditions (c : Choice) : List String :=
  c.condition.toList ++ c.impacts.filterMap (·.condition)

/-- The warnings for a node: its commands on entering and leaving, then the conditions of its
choices. -/
def node (n : Node) : List Warning :=
  (n.startCommands ++ n.endCommands).filterMap (command? n.id) ++
    n.choices.zipIdx.flatMap fun p ↦ (conditions p.1).filterMap (condition? n.id p.2)

end Lint

/-- The warnings for a tree, in the order of the document. -/
def Tree.lint (t : Tree) : List Warning := t.nodes.flatMap Lint.node

end Storyline
