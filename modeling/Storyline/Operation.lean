import Storyline.Saved.Snapshot
import Storyline.Store.Write

/-!
# Operations on an engine

Everything that can be asked of an engine, as data: the calls of a dialogue, the passing of time,
writes to the store, changes of the items, commands, and snapshots that are put back.
`Engine.perform` carries one of them out and gives its reply; a run of several is
`Engine.performAll`.
-/

namespace Storyline

/-- Something that is asked of an engine. -/
inductive Operation where
  /-- Starts a tree at the node that it names. -/
  | start (tree : IndexedTree)
  /-- Starts a tree at a node. -/
  | startAt (tree : IndexedTree) (node : String)
  /-- Puts a saved dialogue back on a node. -/
  | resumeAt (tree : IndexedTree) (node : String)
  /-- Takes a visible choice. -/
  | select (index : Nat)
  /-- Goes on where there are no visible choices. -/
  | advance
  /-- Ends the dialogue at once. -/
  | forceEnd
  /-- Lets time pass. -/
  | update (elapsed : Duration)
  /-- Does something to the store. -/
  | write (w : Write)
  /-- Grants an item. -/
  | addItem (item : String)
  /-- Takes an item away. -/
  | removeItem (item : String)
  /-- Reads a command and carries it out. -/
  | run (command : String)
  /-- Puts the engine back into a saved state. -/
  | apply (snapshot : Snapshot) (tree : Option IndexedTree)

/-- The reply to an operation. -/
inductive Reply where
  /-- It was carried out. -/
  | done
  /-- It was carried out or had nothing to do. -/
  | found (was : Bool)
  /-- The command did this, or was none. -/
  | ran (effect : Option Effect)
  /-- The call was refused. -/
  | refused (error : DialogueError)
  /-- The snapshot could not be applied. -/
  | notApplied (error : ApplyError)
  deriving DecidableEq

/-- The reply to a call. -/
def Reply.ofCall : Except DialogueError Unit → Reply
  | .ok () => .done
  | .error err => .refused err

namespace Engine

/-- Carries out an operation. -/
def perform (e : Engine) : Operation → Told Notice (Reply × Engine)
  | .start tree => do
    let (answer, e) ← e.start tree
    pure (.ofCall answer, e)
  | .startAt tree node => do
    let (answer, e) ← e.startAt tree node
    pure (.ofCall answer, e)
  | .resumeAt tree node => do
    let (answer, e) ← e.resumeAt tree node
    pure (.ofCall answer, e)
  | .select index => do
    let (answer, e) ← e.select index
    pure (.ofCall answer, e)
  | .advance => do
    let (answer, e) ← e.advance
    pure (.ofCall answer, e)
  | .forceEnd => do
    let (was, e) ← e.forceEnd
    pure (.found was, e)
  | .update elapsed => do
    let e ← e.update elapsed
    pure (.done, e)
  | .write w => do
    let e ← e.withStore (·.perform w)
    pure (.done, e)
  | .addItem item => do
    let inventory ← e.world.inventory.add item
    pure (.done, e.withInventory inventory)
  | .removeItem item =>
    let (was, inventory) := e.world.inventory.remove item
    pure (.found was, e.withInventory inventory)
  | .run command => do
    let (effect, world) ← inWorld (e.world.run command)
    pure (.ran effect, { e with world })
  | .apply snapshot tree => do
    let (answer, e) ← snapshot.apply e tree
    match answer with
    | .ok () => pure (.done, e)
    | .error err => pure (.notApplied err, e)

/-- Carries out operations in order. -/
def performAll (e : Engine) : List Operation → Told Notice (List Reply × Engine)
  | [] => pure ([], e)
  | op :: ops => do
    let (reply, e) ← e.perform op
    let (replies, e) ← e.performAll ops
    pure (reply :: replies, e)

end Engine

end Storyline
