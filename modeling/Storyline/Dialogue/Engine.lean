import Storyline.Condition.Evaluation
import Storyline.Dialogue.Event
import Storyline.Schedule.Basic
import Storyline.Settings
import Storyline.Tree.Index

/-!
# The dialogue engine

An engine walks through trees: it is idle, or it shows one node of one tree. Choices, impacts and
commands read and change the world; an end node without visible choices closes itself after a
while, for which the engine keeps one deferred task.

A call is either carried out or refused. A refusal is logged as a warning, and carries the engine
that the call has come to by then (`Engine.refuse`); what was logged before stays in the log.
-/

namespace Storyline

/-- Why a call is refused. -/
inductive DialogueError where
  /-- No dialogue is running. -/
  | notActive
  /-- The tree names no node to start at. -/
  | missingStart (tree : String)
  /-- The tree has no node of this name. -/
  | nodeNotFound (tree node : String)
  /-- There is no visible choice at this place. -/
  | invalidChoice (index visible : Nat)
  /-- The player still has to choose. -/
  | choicesPending (visible : Nat)
  deriving DecidableEq

/-- The message for a refused call. -/
def DialogueError.message : DialogueError → String
  | .notActive => "no dialogue is active"
  | .missingStart tree => "dialogue tree '" ++ tree ++ "' has no start node"
  | .nodeNotFound tree node => "dialogue tree '" ++ tree ++ "' has no node '" ++ node ++ "'"
  | .invalidChoice index visible =>
    "invalid choice " ++ Numeral.decimal index ++ " (" ++ Numeral.decimal visible ++ " visible)"
  | .choicesPending visible =>
    "cannot auto-advance past " ++ Numeral.decimal visible ++ " visible choice(s)"

/-- The node on screen, and the tree that it belongs to. -/
structure ActiveNode where
  /-- The tree. -/
  tree : IndexedTree
  /-- The name of the node, as it is authored. -/
  nodeId : String
  deriving DecidableEq

/-- A dialogue engine. -/
structure Engine where
  /-- The variables and the items. -/
  world : World
  /-- The timing. -/
  settings : Settings := {}
  /-- The node on screen; none where no dialogue is running. -/
  active : Option ActiveNode := none
  /-- The clock, and the closing of an end node by its name. -/
  schedule : Schedule String := {}
  /-- The handle of the closing that waits. -/
  pendingEnd : Option Nat := none
  deriving DecidableEq

/-- The choices from a position on whose conditions are true, with their positions. -/
def visibleFrom {α : Type} (store : Store) : Nat → List Choice → Told α (List (Nat × Choice))
  | _, [] => pure []
  | i, c :: cs => do
    let shown ← Condition.evaluateOptional store c.condition
    let rest ← visibleFrom store (i + 1) cs
    pure (if shown then (i, c) :: rest else rest)

/-- The choices of a node whose conditions are true, with their authored positions. -/
def Node.visible {α : Type} (n : Node) (store : Store) : Told α (List (Nat × Choice)) :=
  visibleFrom store 0 n.choices

namespace Engine

variable (e : Engine)

/-! ### Reading -/

/-- Whether a dialogue is running. -/
def isActive : Bool := e.active.isSome

/-- The tree of the running dialogue. -/
def currentTree? : Option IndexedTree := e.active.map (·.tree)

/-- The node on screen. -/
def currentNode? : Option Node := e.active.bind fun a ↦ a.tree.node? a.nodeId

/-- Whether an end node is about to close itself. -/
def pendingAutoEnd : Bool := e.pendingEnd.any e.schedule.isPending

/-- The time on the engine's clock. -/
def now : Duration := e.schedule.now

/-- How long it takes until an end node closes itself. -/
def timeToEnd : Duration :=
  match e.pendingEnd.bind e.schedule.find? with
  | some t => t.due - e.now
  | none => .zero

/-- The visible choices of the node on screen, with their authored positions. -/
def visibleChoices {α : Type} : Told α (List (Nat × Choice)) :=
  match e.currentNode? with
  | some n => n.visible e.world.store
  | none => pure []

/-! ### Changing the world -/

/-- Changes the world, and announces the changes of the store as such. -/
def inWorld {β : Type} (x : Told Change β) : Told Notice β := x.mapNotices .change

/-- The engine after a change of the store. -/
def withStore (change : Store → Told Change Store) : Told Notice Engine := do
  let store ← inWorld (change e.world.store)
  pure { e with world := { e.world with store } }

/-- The engine with other items. -/
def withInventory (inventory : Inventory) : Engine :=
  { e with world := { e.world with inventory } }

/-- Announces a step of the dialogue. -/
def emit (event : Event) : Told Notice Unit := Told.notify (.event event)

/-- Runs commands in order, and announces each item that they grant. -/
def runCommands : Engine → List String → Told Notice Engine
  | e, [] => pure e
  | e, raw :: rest => do
    let (effect, world) ← inWorld (e.world.run raw)
    if let some (.itemGiven id) := effect then emit (.itemGiven id)
    runCommands { e with world } rest

/-- Makes the impacts of a choice in order, each in the store that the earlier ones left. -/
def applyImpacts (node : Node) : Engine → List Impact → Told Notice Engine
  | e, [] => pure e
  | e, i :: rest => do
    if Text.isBlankText i.key then
      Told.log .warn ("content error: impact with a blank key at node '" ++ node.id ++ "'")
      applyImpacts node e rest
    else
      let described := i.key ++ " " ++ Numeral.signed i.delta.toInt
      if ← Condition.evaluateOptional e.world.store i.condition then
        let e ← e.withStore (·.addInt i.key i.delta)
        Told.log .debug ("└─ impact: " ++ described)
        emit (.impactApplied i.key i.delta)
        applyImpacts node e rest
      else
        Told.log .debug ("└─ impact skipped: " ++ described)
        applyImpacts node e rest

/-! ### Closing -/

/-- Gives up the closing that waits, if there is one. -/
def cancelPendingEnd : Told Notice Engine :=
  match e.pendingEnd with
  | none => pure e
  | some handle => do
    let (_, schedule) ← e.schedule.cancel handle
    pure { e with schedule, pendingEnd := none }

/-- Becomes idle, and announces it if a dialogue was running. -/
def endDialogue : Told Notice Engine := do
  let e ← e.cancelPendingEnd
  match e.active with
  | none => pure e
  | some a =>
    Told.log .info ("dialogue '" ++ a.tree.id ++ "' ended at node '" ++ a.nodeId ++ "'")
    emit .ended
    pure { e with active := none }

/-- Lets the dialogue close itself once the node has been on screen for its time. -/
def scheduleEnd (node : Node) : Told Notice Engine := do
  let delay := (displayDuration? node.displayDuration).getD e.settings.defaultDisplay
  let (handle, schedule) ←
    e.schedule.scheduleIn delay node.id (some ("auto-close node '" ++ node.id ++ "'"))
  pure { e with schedule, pendingEnd := some handle }

/-! ### Showing nodes -/

/-- Announces a node and its visible choices. Where there are none, an end node closes itself, and
so does a node that leads nowhere. -/
def announceNode (tree : IndexedTree) (node : Node) : Told Notice Engine := do
  emit (.nodeDisplayed tree.tree node)
  let visible := (← node.visible e.world.store).length
  emit (.choicesUpdated node visible)
  if visible = 0 then
    if node.isEnd then e.scheduleEnd node
    else if node.autoNext.isNone then
      Told.log .warn ("content warning: node '" ++ node.id ++ "' of '" ++ tree.id ++
        "' is a dead end; closing it like an end node")
      e.scheduleEnd node
    else pure e
  else pure e

/-- Puts a node on screen, running its commands first. -/
def enter (tree : IndexedTree) (node : Node) : Told Notice Engine := do
  let e := { e with active := some ⟨tree, node.id⟩ }
  Told.log .info ("showing node '" ++ node.id ++ "' of '" ++ tree.id ++ "'")
  let e ← e.runCommands node.startCommands
  e.announceNode tree node

/-- Goes on to a node by name. Without a name, or with one that the tree does not know, the
dialogue ends. -/
def showNode (tree : IndexedTree) (name : Option String) : Told Notice Engine := do
  let e ← e.cancelPendingEnd
  match name with
  | none => e.endDialogue
  | some name =>
    match tree.node? name with
    | some node => e.enter tree node
    | none =>
      Told.log .warn ("content error: dialogue '" ++ tree.id ++ "' links to missing node '" ++
        name ++ "'; ending dialogue")
      e.endDialogue

/-! ### Calls -/

/-- Refuses a call, with the engine as it is by then. -/
def refuse (err : DialogueError) : Told Notice (Except DialogueError Unit × Engine) := do
  Told.log .warn ("dialogue call refused: " ++ err.message)
  pure (.error err, e)

/-- Carries a call out, after all refusals have been ruled out. -/
def carryOut (x : Told Notice Engine) : Told Notice (Except DialogueError Unit × Engine) := do
  let after ← x
  pure (.ok (), after)

/-- Starts a tree at the node with a name. A dialogue that is running is left without an end. -/
def startAt (tree : IndexedTree) (name : String) :
    Told Notice (Except DialogueError Unit × Engine) :=
  match tree.node? name with
  | none => e.refuse (.nodeNotFound tree.id name)
  | some node => carryOut do
    if let some a := e.active then
      Told.log .info
        ("dialogue '" ++ a.tree.id ++ "' superseded by '" ++ tree.id ++ "' without ending")
    Told.log .info ("dialogue '" ++ tree.id ++ "' started at node '" ++ node.id ++ "'")
    e.showNode tree (some node.id)

/-- Starts a tree at the node that it names. -/
def start (tree : IndexedTree) : Told Notice (Except DialogueError Unit × Engine) :=
  match tree.tree.startNode with
  | none => e.refuse (.missingStart tree.id)
  | some name => e.startAt tree name

/-- Starts a tree at one of its nodes. -/
def startAtNode (tree : IndexedTree) (node : Node) :
    Told Notice (Except DialogueError Unit × Engine) :=
  e.startAt tree node.id

/-- Puts a saved dialogue back on a node. Its commands on entering are not run again, for their
effects are already in the saved world. -/
def resumeAt (tree : IndexedTree) (name : String) :
    Told Notice (Except DialogueError Unit × Engine) :=
  match tree.node? name with
  | none => e.refuse (.nodeNotFound tree.id name)
  | some node => carryOut do
    let e ← e.cancelPendingEnd
    let e := { e with active := some ⟨tree, node.id⟩ }
    Told.log .info ("dialogue '" ++ tree.id ++ "' resumed at node '" ++ node.id ++ "'")
    e.announceNode tree node

/-- The tree and the node on screen; the answer is an error where there is none. -/
def activeNode : Except DialogueError (IndexedTree × Node) :=
  match e.active with
  | none => .error .notActive
  | some a =>
    match a.tree.node? a.nodeId with
    | none => .error (.nodeNotFound a.tree.id a.nodeId)
    | some node => .ok (a.tree, node)

/-- What taking a visible choice does. -/
def take (tree : IndexedTree) (node : Node) (choice : Choice) (index : Nat) :
    Told Notice Engine := do
  Told.log .info ("choice " ++ Numeral.decimal index ++ " taken at node '" ++ node.id ++ "': \"" ++
    choice.text ++ "\"")
  emit (.choiceSelected node choice index)
  let e ← e.applyImpacts node choice.impacts
  let e ← e.runCommands node.endCommands
  e.showNode tree choice.nextNode

/-- Takes the visible choice at a place. -/
def select (index : Nat) : Told Notice (Except DialogueError Unit × Engine) :=
  match e.activeNode with
  | .error err => e.refuse err
  | .ok (tree, node) => do
    let visible ← node.visible e.world.store
    match visible[index]? with
    | none => e.refuse (.invalidChoice index visible.length)
    | some (_, choice) => carryOut (e.take tree node choice index)

/-- What going on from a node without visible choices does. -/
def leave (tree : IndexedTree) (node : Node) : Told Notice Engine :=
  match node.autoNext with
  | some next => do
    let e ← e.runCommands node.endCommands
    e.showNode tree (some next)
  | none => do
    Told.log .info ("node '" ++ node.id ++ "' has no auto-advance target")
    e.endDialogue

/-- Goes on to the node that follows, or ends the dialogue where none does. -/
def advance : Told Notice (Except DialogueError Unit × Engine) :=
  match e.activeNode with
  | .error err => e.refuse err
  | .ok (tree, node) => do
    let visible := (← node.visible e.world.store).length
    if 0 < visible then e.refuse (.choicesPending visible)
    else carryOut (e.leave tree node)

/-- Ends the dialogue at once; the answer says whether one was running. -/
def forceEnd : Told Notice (Bool × Engine) :=
  if e.isActive then do
    Told.log .info "dialogue force-ended"
    let e ← e.endDialogue
    pure (true, e)
  else do
    Told.log .debug "force_end called with no active dialogue"
    pure (false, e)

/-- Closes the dialogue for a task that has come due, if it is the one that waits. -/
def close (due : Nat × Deferred String) : Told Notice Engine :=
  if e.pendingEnd = some due.1 then do
    Told.log .info ("end node '" ++ due.2.task ++ "' closed after its display time")
    { e with pendingEnd := none }.endDialogue
  else pure e

/-- Moves the clock forward, and does what has come due. -/
def update (elapsed : Duration) : Told Notice Engine :=
  let (due, schedule) := (e.schedule.advance elapsed).drain
  due.foldlM close { e with schedule }

end Engine

end Storyline
