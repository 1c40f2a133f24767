import Storyline.Files
import Storyline.Signal
import Storyline.Tree.Index
import Storyline.Tree.Lint
import Storyline.Tree.Validation

/-!
# Loading trees

What tree the text of a file holds is up to a reader of such files. Defects of its structure stop a
tree from being loaded; conditions and commands that cannot be read are only logged, one warning
each.
-/

namespace Storyline

/-- Why a text is no tree that can be played. -/
inductive TreeError where
  /-- It has not the form of a tree; this is the message of the reader. -/
  | malformed (message : String)
  /-- The tree has defects. -/
  | defective (tree : String) (defects : List Defect)
  /-- Its nodes cannot be told apart. -/
  | ambiguous (error : IndexError)
  deriving DecidableEq

/-- The messages for a text that is no tree, the outermost first. -/
def TreeError.causes : TreeError → Causes
  | .malformed message => ["parsing dialogue tree RON", message]
  | .defective tree defects =>
    ["dialogue tree '" ++ tree ++ "' failed validation:\n" ++
      String.intercalate "\n" (defects.map fun d ↦ "- " ++ d.message)]
  | .ambiguous error => [error.message]

/-- Logs the warnings for a tree. -/
def Tree.logWarnings {α : Type} (t : Tree) : Told α Unit :=
  t.lint.forM fun w ↦ Told.log .warn ("content warning in '" ++ t.id ++ "': " ++ w.message)

namespace IndexedTree

variable (parse : String → Except String Tree)

/-- Reads, validates and indexes the text of a tree. -/
def ofText {α : Type} (text : String) : Told α (Except TreeError IndexedTree) :=
  match parse text with
  | .error message => pure (.error (.malformed message))
  | .ok t =>
    if t.defects.isEmpty then do
      t.logWarnings
      pure (t.indexed.mapError .ambiguous)
    else pure (.error (.defective t.id t.defects))

/-- Loads a tree from a file, of which the text is given or the reason why there is none. -/
def load {α : Type} (path : String) (file : Except FileError String) :
    Told α (Except Causes IndexedTree) :=
  match file with
  | .error err =>
    pure (.error ["reading dialogue tree from '" ++ path ++ "'", err.message])
  | .ok text => do
    match ← ofText parse text with
    | .error err => pure (.error (("loading dialogue tree from '" ++ path ++ "'") :: err.causes))
    | .ok t =>
      Told.log .info ("dialogue tree '" ++ t.id ++ "' loaded from '" ++ path ++ "' (" ++
        Numeral.decimal t.tree.nodes.length ++ " nodes)")
      pure (.ok t)

end IndexedTree

end Storyline
