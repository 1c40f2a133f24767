import Storyline.Command.Basic
import Storyline.Inventory
import Storyline.Store.Basic

/-!
# The world that commands act on

The variables and the player's items. `World.run` reads a command and carries it out; a text that
is no command is logged and skipped.
-/

namespace Storyline

/-- The variables and the player's items. -/
structure World where
  /-- The variables. -/
  store : Store
  /-- The items. -/
  inventory : Inventory := {}
  deriving DecidableEq

/-- What a command did. -/
inductive Effect where
  /-- It changed a variable. -/
  | applied
  /-- It granted an item. -/
  | itemGiven (id : String)
  deriving DecidableEq

namespace World

/-- The variable that keeps the label of the ending. -/
def endingKey : String := "ending"

variable (w : World)

/-- Changes the variables only. -/
def withStore (s : Told Change Store) : Told Change World := do
  let store ← s
  pure { w with store }

/-- Carries out a command. -/
def execute : Command → Told Change (Effect × World)
  | .giveItem id => do
    let inventory ← w.inventory.add id
    pure (.itemGiven id, { w with inventory })
  | .setFlag name => do pure (.applied, ← w.withStore (w.store.setBool name true))
  | .clearFlag name => do pure (.applied, ← w.withStore (w.store.setBool name false))
  | .adjustVar key delta => do pure (.applied, ← w.withStore (w.store.addInt key delta))
  | .recordEnding label => do pure (.applied, ← w.withStore (w.store.setString endingKey label))

/-- Reads a command and carries it out; nothing is done for a text that is none. -/
def run (raw : String) : Told Change (Option Effect × World) :=
  match Command.parse raw with
  | .ok command => do
    Told.log .debug ("└─ command: " ++ command.display)
    let (effect, world) ← w.execute command
    pure (some effect, world)
  | .error e => do
    Told.log .warn ("skipping command \"" ++ raw ++ "\": " ++ e.message)
    pure (none, w)

end World

end Storyline
