import Storyline.Dialogue.Engine

/-!
# Snapshots of a session

A snapshot holds the values of the store, the player's items, and the node on screen with its
tree. Taking one changes nothing. Applying one ends the running dialogue, puts the values and the
items back, and shows the saved node again.
-/

namespace Storyline

/-- The version of the engine, which snapshots carry. -/
def engineVersion : String := "0.3.0"

/-- A saved session. -/
structure Snapshot where
  /-- The version of the engine that took it. -/
  version : String
  /-- The tree that was played. -/
  treeId : Option String := none
  /-- The node that was on screen. -/
  nodeId : Option String := none
  /-- The values of the store. -/
  store : Contents := {}
  /-- The player's items. -/
  inventory : Inventory := {}
  deriving DecidableEq

/-- Why a snapshot cannot be applied. -/
inductive ApplyError where
  /-- It was taken in a dialogue, and no tree is at hand. -/
  | noTree (saved : String)
  /-- It was taken in another tree. -/
  | otherTree (saved given : String)
  /-- The saved node cannot be shown. -/
  | resume (node : String) (error : DialogueError)
  deriving DecidableEq

/-- The messages for a snapshot that cannot be applied, the outermost first. -/
def ApplyError.causes : ApplyError → List String
  | .noTree saved => ["snapshot is inside dialogue '" ++ saved ++ "' but no tree was supplied"]
  | .otherTree saved given =>
    ["snapshot is inside dialogue '" ++ saved ++ "', not '" ++ given ++ "'"]
  | .resume node error => ["resuming dialogue at node '" ++ node ++ "'", error.message]

namespace Snapshot

/-- The snapshot of an engine as it is. -/
def capture (e : Engine) : Snapshot where
  version := engineVersion
  treeId := e.active.map (·.tree.id)
  nodeId := e.active.map (·.nodeId)
  store := e.world.store.contents
  inventory := e.world.inventory

/-- Where the dialogue goes on: nowhere for a snapshot that was taken without one, else at the
saved node of the tree at hand, which has to be the saved one up to ASCII case. -/
def position (s : Snapshot) (tree : Option IndexedTree) :
    Except ApplyError (Option (IndexedTree × String)) :=
  match s.treeId, s.nodeId with
  | some saved, some node =>
    match tree with
    | none => .error (.noTree saved)
    | some t =>
      if Text.sameText t.id saved then .ok (some (t, node)) else .error (.otherTree saved t.id)
  | _, _ => .ok none

/-- The engine with the saved values and items, its dialogue ended. -/
def restoreWorld (s : Snapshot) (e : Engine) : Told Notice Engine := do
  let (_, e) ← e.forceEnd
  let e ← e.withStore (·.restore s.store)
  pure (e.withInventory s.inventory)

/-- Puts an engine back into the saved state. A snapshot of another tree is refused at once; one
whose node is missing from the tree only after the world has been restored. -/
def apply (s : Snapshot) (e : Engine) (tree : Option IndexedTree) :
    Told Notice (Except ApplyError Unit × Engine) :=
  match s.position tree with
  | .error err => pure (.error err, e)
  | .ok none => do
    let e ← s.restoreWorld e
    pure (.ok (), e)
  | .ok (some (t, node)) => do
    let e ← s.restoreWorld e
    let (answer, e) ← e.resumeAt t node
    pure (answer.mapError (.resume node), e)

end Snapshot

/-! ### Save slots -/

/-- The directory of saved games. -/
def saveDirectory : String := "saved_games"

/-- The file name of a slot: ASCII letters and digits in lower case, hyphens as they are, and an
underscore for everything else. -/
def slotFile (slot : String) : String :=
  "tale-" ++ String.ofList ((Text.trimChars slot.toList).map fun c ↦
    if c.isAlphanum || c == '-' then c.toLower else '_') ++ ".ron"

/-- The path of a slot. -/
def slotPath (slot : String) : String := saveDirectory ++ "/" ++ slotFile slot

end Storyline
