import Storyline.Dialogue.Engine
import Storyline.Proofs.Store.Kept

/-!
# What the phases of a call touch

Commands and impacts act on the world alone: they neither read nor change the rest of an engine
(`Engine.runCommands_congr`, `Engine.applyImpacts_congr`), and they change the store by writes
only, whose changes are what they announce of the store (`changesOf`). Looking for visible choices
announces nothing, and what it finds depends on the store alone (`Node.shown`). Closing and showing
leave the world as it is.
-/

namespace Storyline

/-! ### Visible choices -/

/-- The choices of a node that are visible in a store, with their authored positions. -/
def Node.shown (n : Node) (store : Store) : List (Nat × Choice) :=
  (n.visible store : Told Empty (List (Nat × Choice))).value

/-- Whether a node closes itself when it is shown in a store: no choice is visible, and it is an
end or leads nowhere. -/
def Node.closes (n : Node) (store : Store) : Prop :=
  n.shown store = [] ∧ (n.isEnd = true ∨ n.autoNext = none)

instance (n : Node) (store : Store) : Decidable (n.closes store) :=
  inferInstanceAs (Decidable (_ ∧ _))

namespace Condition

variable {α β : Type}

/-- What a condition evaluates to does not depend on what may be announced beside it. -/
theorem value_evaluateOptional (store : Store) (c : Option String) :
    (evaluateOptional store c : Told α Bool).value =
      (evaluateOptional store c : Told β Bool).value := by
  rcases c with - | expression
  · rfl
  · rw [evaluateOptional, evaluateOptional, evaluate, evaluate]
    rcases parse expression with err | c <;> rfl

/-- Evaluating a condition announces nothing. -/
@[simp] theorem notices_evaluateOptional (store : Store) (c : Option String) :
    (evaluateOptional store c : Told α Bool).notices = [] := by
  rcases c with - | expression
  · rfl
  · rw [evaluateOptional, evaluate]
    rcases parse expression with err | c <;> rfl

end Condition

theorem value_visibleFrom {α β : Type} (store : Store) (i : Nat) (cs : List Choice) :
    (visibleFrom store i cs : Told α (List (Nat × Choice))).value =
      (visibleFrom store i cs : Told β (List (Nat × Choice))).value := by
  induction cs generalizing i with
  | nil => rfl
  | cons c cs ih =>
    simp only [visibleFrom, Told.value_bind, Told.value_pure, ih (i + 1),
      Condition.value_evaluateOptional (α := α) (β := β)]

/-- Neither does looking for the visible choices. -/
@[simp] theorem notices_visibleFrom {α : Type} (store : Store) (i : Nat) (cs : List Choice) :
    (visibleFrom store i cs : Told α (List (Nat × Choice))).notices = [] := by
  induction cs generalizing i with
  | nil => rfl
  | cons c cs ih => simp [visibleFrom, ih]

@[simp] theorem Node.value_visible {α : Type} (n : Node) (store : Store) :
    (n.visible store : Told α (List (Nat × Choice))).value = n.shown store :=
  value_visibleFrom store 0 n.choices

@[simp] theorem Node.notices_visible {α : Type} (n : Node) (store : Store) :
    (n.visible store : Told α (List (Nat × Choice))).notices = [] :=
  notices_visibleFrom store 0 n.choices

/-! ### Commands in a world -/

/-- Granting an item is not announced by the inventory, but by who grants it. -/
@[simp] theorem Inventory.notices_add {α : Type} (inv : Inventory) (item : String) :
    (inv.add item : Told α Inventory).notices = [] := by
  rw [add]
  split <;> rfl

/-- Writes to the store of a world are writes. -/
theorem World.writes_withStore (w : World) {s : Told Change Store}
    (h : w.store.Writes s.notices s.value) :
    w.store.Writes (w.withStore s).notices (w.withStore s).value.store := by
  have hnotices : (w.withStore s).notices = s.notices := by simp [withStore]
  rw [hnotices]
  exact h

/-- A command changes the store by writes only. -/
theorem World.writes_execute (w : World) (command : Command) :
    w.store.Writes (w.execute command).notices (w.execute command).value.2.store := by
  cases command <;>
    simp only [execute, Told.notices_bind, Told.value_bind, Told.notices_pure, Told.value_pure,
      List.append_nil]
  case giveItem id =>
    rw [Inventory.notices_add]
    exact .nil _
  case setFlag name => exact w.writes_withStore (w.store.writes_perform (.setBool name true))
  case clearFlag name => exact w.writes_withStore (w.store.writes_perform (.setBool name false))
  case adjustVar key delta => exact w.writes_withStore (w.store.writes_perform (.addInt key delta))
  case recordEnding label =>
    exact w.writes_withStore (w.store.writes_perform (.setString endingKey label))

theorem World.writes_run (w : World) (raw : String) :
    w.store.Writes (w.run raw).notices (w.run raw).value.2.store := by
  rw [World.run]
  rcases Command.parse raw with err | command
  · exact .nil _
  · simp only [Told.notices_bind, Told.notices_log, Told.notices_pure, List.nil_append,
      List.append_nil]
    exact w.writes_execute command

/-! ### Notices -/

/-- Whether a notice says that a node is displayed. -/
def Notice.isDisplay : Notice → Bool
  | .event (.nodeDisplayed _ _) => true
  | _ => false

/-- Whether notices say that a node is displayed. -/
def displaysNode (notices : List Notice) : Bool := notices.any Notice.isDisplay

@[simp] theorem displaysNode_nil : displaysNode [] = false := rfl

@[simp] theorem displaysNode_append (ms ns : List Notice) :
    displaysNode (ms ++ ns) = (displaysNode ms || displaysNode ns) := List.any_append

@[simp] theorem displaysNode_cons (n : Notice) (ns : List Notice) :
    displaysNode (n :: ns) = (n.isDisplay || displaysNode ns) := rfl

/-- Changes of the store display no node. -/
@[simp] theorem displaysNode_map_change (cs : List Change) :
    displaysNode (cs.map .change) = false := by
  rw [displaysNode, List.any_eq_false]
  intro n hn
  obtain ⟨c, -, rfl⟩ := List.mem_map.mp hn
  exact Bool.false_ne_true

/-- The change that is announced, if it is one. -/
def Notice.change? : Notice → Option Change
  | .change c => some c
  | .event _ => none

/-- The changes among notices. -/
def changesOf (notices : List Notice) : List Change := notices.filterMap Notice.change?

@[simp] theorem changesOf_nil : changesOf [] = [] := rfl

@[simp] theorem changesOf_append (ms ns : List Notice) :
    changesOf (ms ++ ns) = changesOf ms ++ changesOf ns := List.filterMap_append

@[simp] theorem changesOf_event_cons (e : Event) (ns : List Notice) :
    changesOf (.event e :: ns) = changesOf ns := rfl

@[simp] theorem changesOf_map_change (cs : List Change) : changesOf (cs.map .change) = cs := by
  rw [changesOf, List.filterMap_map]
  exact List.filterMap_some

namespace Engine

/-! ### Equations -/

@[simp] theorem value_emit (event : Event) : (emit event).value = () := rfl

@[simp] theorem notices_emit (event : Event) : (emit event).notices = [.event event] := rfl

@[simp] theorem value_inWorld {β : Type} (x : Told Change β) : (inWorld x).value = x.value := rfl

@[simp] theorem notices_inWorld {β : Type} (x : Told Change β) :
    (inWorld x).notices = x.notices.map .change := Told.notices_mapNotices _ _

/-- What is announced beside the changes that a command made. -/
def grantNotices : Option Effect → List Notice
  | some (.itemGiven id) => [.event (.itemGiven id)]
  | _ => []

/-- The first command is run, and the others in the world that it left. -/
theorem value_runCommands_cons (e : Engine) (raw : String) (rest : List String) :
    (e.runCommands (raw :: rest)).value =
      (runCommands { e with world := (e.world.run raw).value.2 } rest).value := by
  rw [runCommands]
  rcases hrun : (e.world.run raw).value with ⟨_ | _ | id, world⟩ <;> simp [hrun]

/-- What the first command changes and grants is announced before the rest. -/
theorem notices_runCommands_cons (e : Engine) (raw : String) (rest : List String) :
    (e.runCommands (raw :: rest)).notices =
      (e.world.run raw).notices.map .change ++ grantNotices (e.world.run raw).value.1 ++
        (runCommands { e with world := (e.world.run raw).value.2 } rest).notices := by
  rw [runCommands]
  rcases hrun : (e.world.run raw).value with ⟨_ | _ | id, world⟩ <;>
    simp [hrun, grantNotices]

/-- What an impact does in a store: nothing under a blank key or a condition that does not hold,
else one addition. -/
def impactStep (store : Store) (i : Impact) : Told Change Store :=
  if Text.isBlankText i.key then pure store
  else if (Condition.evaluateOptional store i.condition : Told Change Bool).value then
    store.addInt i.key i.delta
  else pure store

/-- What is announced beside the change that an impact made. -/
def impactNotices (store : Store) (i : Impact) : List Notice :=
  if Text.isBlankText i.key then []
  else if (Condition.evaluateOptional store i.condition : Told Change Bool).value then
    [.event (.impactApplied i.key i.delta)]
  else []

/-- The engine with another store. -/
def inStore (e : Engine) (store : Store) : Engine := { e with world := { e.world with store } }

/-- The first impact is made, and the others in the store that it left. -/
theorem value_applyImpacts_cons (e : Engine) (node : Node) (i : Impact) (rest : List Impact) :
    (e.applyImpacts node (i :: rest)).value =
      (applyImpacts node (e.inStore (impactStep e.world.store i).value) rest).value := by
  rw [applyImpacts, impactStep]
  split
  · rfl
  · simp only [Told.value_bind, Condition.value_evaluateOptional (α := Notice) (β := Change)]
    split
    · rfl
    · rfl

/-- What the first impact changes is announced before the rest. -/
theorem notices_applyImpacts_cons (e : Engine) (node : Node) (i : Impact) (rest : List Impact) :
    (e.applyImpacts node (i :: rest)).notices =
      (impactStep e.world.store i).notices.map .change ++ impactNotices e.world.store i ++
        (applyImpacts node (e.inStore (impactStep e.world.store i).value) rest).notices := by
  rw [applyImpacts, impactStep, impactNotices]
  split
  · simp [inStore]
  · simp only [Told.notices_bind, Condition.notices_evaluateOptional,
      Condition.value_evaluateOptional (α := Notice) (β := Change), List.nil_append]
    split
    · simp [withStore, inStore]
    · simp [inStore]

@[simp] theorem changesOf_grantNotices (effect : Option Effect) :
    changesOf (grantNotices effect) = [] := by
  rcases effect with - | - | id <;> rfl

@[simp] theorem changesOf_impactNotices (store : Store) (i : Impact) :
    changesOf (impactNotices store i) = [] := by
  rw [impactNotices]
  split
  · rfl
  · split <;> rfl

/-- An impact changes the store by writes only. -/
theorem writes_impactStep (store : Store) (i : Impact) :
    store.Writes (impactStep store i).notices (impactStep store i).value := by
  rw [impactStep]
  split
  · exact .nil _
  · split
    · exact Store.writes_perform _ (.addInt i.key i.delta)
    · exact .nil _

/-! ### The world and nothing else -/

/-- Commands read and change nothing of an engine but its world. -/
theorem runCommands_congr {e d : Engine} (h : e.world = d.world) (commands : List String) :
    (e.runCommands commands).value = { e with world := (d.runCommands commands).value.world } ∧
      (e.runCommands commands).notices = (d.runCommands commands).notices := by
  induction commands generalizing e d with
  | nil => exact ⟨by rw [runCommands, runCommands]; simp [← h], rfl⟩
  | cons raw rest ih =>
    rw [value_runCommands_cons, value_runCommands_cons, notices_runCommands_cons,
      notices_runCommands_cons, h]
    -- both go on in the world that the first command leaves
    obtain ⟨hvalue, hnotices⟩ := ih (e := { e with world := (d.world.run raw).value.2 })
      (d := { d with world := (d.world.run raw).value.2 }) rfl
    exact ⟨hvalue, by rw [hnotices]⟩

/-- Running commands changes nothing but the world. -/
theorem runCommands_eq (e : Engine) (commands : List String) :
    (e.runCommands commands).value =
      { e with world := (e.runCommands commands).value.world } :=
  (runCommands_congr rfl commands).1

/-- Impacts read and change nothing of an engine but its world. -/
theorem applyImpacts_congr {e d : Engine} (h : e.world = d.world) (node : Node)
    (impacts : List Impact) :
    (e.applyImpacts node impacts).value =
        { e with world := (d.applyImpacts node impacts).value.world } ∧
      (e.applyImpacts node impacts).notices = (d.applyImpacts node impacts).notices := by
  induction impacts generalizing e d with
  | nil => exact ⟨by rw [applyImpacts, applyImpacts]; simp [← h], rfl⟩
  | cons i rest ih =>
    rw [value_applyImpacts_cons, value_applyImpacts_cons, notices_applyImpacts_cons,
      notices_applyImpacts_cons, h]
    obtain ⟨hvalue, hnotices⟩ := ih (e := e.inStore (impactStep d.world.store i).value)
      (d := d.inStore (impactStep d.world.store i).value) (by simp [inStore, h])
    exact ⟨hvalue, by rw [hnotices]⟩

/-- Neither does making impacts. -/
theorem applyImpacts_eq (e : Engine) (node : Node) (impacts : List Impact) :
    (e.applyImpacts node impacts).value =
      { e with world := (e.applyImpacts node impacts).value.world } :=
  (applyImpacts_congr rfl node impacts).1

/-- What happens to the store on the way from an engine to another: writes, and among the notices
are the changes that they announce. -/
def WritesTo (e : Engine) (notices : List Notice) (e' : Engine) : Prop :=
  e.world.store.Writes (changesOf notices) e'.world.store

/-- Writes on the way to an engine and on from it are writes. -/
theorem WritesTo.trans {e d e' : Engine} {ms ns : List Notice} (h : e.WritesTo ms d)
    (h' : d.WritesTo ns e') : e.WritesTo (ms ++ ns) e' := by
  rw [WritesTo, changesOf_append]
  exact Store.Writes.trans h h'

/-- Nothing is written where the world stays and only events are announced. -/
theorem writesTo_of_world_eq {e e' : Engine} {notices : List Notice} (hworld : e'.world = e.world)
    (hnotices : changesOf notices = []) : e.WritesTo notices e' := by
  rw [WritesTo, hworld, hnotices]
  exact .nil _

/-- A write to the store is one. -/
theorem writes_withStore (e : Engine) (w : Write) :
    e.WritesTo (e.withStore (·.perform w)).notices (e.withStore (·.perform w)).value := by
  have hnotices :
      (e.withStore (·.perform w)).notices = (e.world.store.perform w).notices.map .change := by
    simp [withStore]
  rw [WritesTo, hnotices, changesOf_map_change]
  exact e.world.store.writes_perform w

/-- Commands change the store by writes only. -/
theorem writes_runCommands (e : Engine) (commands : List String) :
    e.WritesTo (e.runCommands commands).notices (e.runCommands commands).value := by
  induction commands generalizing e with
  | nil => exact .nil _
  | cons raw rest ih =>
    rw [value_runCommands_cons, notices_runCommands_cons]
    refine WritesTo.trans ?_ (ih { e with world := (e.world.run raw).value.2 })
    rw [WritesTo, changesOf_append, changesOf_map_change, changesOf_grantNotices, List.append_nil]
    exact e.world.writes_run raw

theorem writes_applyImpacts (e : Engine) (node : Node) (impacts : List Impact) :
    e.WritesTo (e.applyImpacts node impacts).notices (e.applyImpacts node impacts).value := by
  induction impacts generalizing e with
  | nil => exact .nil _
  | cons i rest ih =>
    rw [value_applyImpacts_cons, notices_applyImpacts_cons]
    refine WritesTo.trans ?_ (ih (e.inStore (impactStep e.world.store i).value))
    rw [WritesTo, changesOf_append, changesOf_map_change, changesOf_impactNotices, List.append_nil]
    exact writes_impactStep e.world.store i

/-! ### Closing and showing -/

/-- Giving up the closing that waits leaves the world alone. -/
@[simp] theorem world_cancelPendingEnd (e : Engine) : e.cancelPendingEnd.value.world = e.world := by
  rw [cancelPendingEnd]
  rcases e.pendingEnd with - | handle <;> rfl

@[simp] theorem active_cancelPendingEnd (e : Engine) :
    e.cancelPendingEnd.value.active = e.active := by
  rw [cancelPendingEnd]
  rcases e.pendingEnd with - | handle <;> rfl

/-- It is not announced either. -/
@[simp] theorem notices_cancelPendingEnd (e : Engine) : e.cancelPendingEnd.notices = [] := by
  rw [cancelPendingEnd]
  rcases e.pendingEnd with - | handle
  · rfl
  · simp only [Told.notices_bind, Told.notices_pure, List.append_nil]
    rw [Schedule.cancel, Schedule.cancelWithin]
    rcases e.schedule.find? handle with - | t <;> rfl

/-- Ending a dialogue leaves the world alone. -/
@[simp] theorem world_endDialogue (e : Engine) : e.endDialogue.value.world = e.world := by
  rw [endDialogue, Told.value_bind]
  split <;> simp

/-- After the end no node is on screen. -/
@[simp] theorem active_endDialogue (e : Engine) : e.endDialogue.value.active = none := by
  rw [endDialogue, Told.value_bind]
  split
  · rename_i hidle
    exact hidle
  · rfl

/-- The end is announced if a dialogue was running. -/
theorem notices_endDialogue (e : Engine) :
    e.endDialogue.notices = if e.active.isSome then [.event .ended] else [] := by
  rw [endDialogue, Told.notices_bind, notices_cancelPendingEnd, active_cancelPendingEnd]
  rcases e.active with - | a <;> rfl

@[simp] theorem notices_scheduleEnd (e : Engine) (node : Node) :
    (e.scheduleEnd node).notices = [] := by
  simp [scheduleEnd, Schedule.scheduleIn]

/-- A node that closes itself is given its time; any other changes nothing when it is
announced. -/
theorem value_announceNode (e : Engine) (tree : IndexedTree) (node : Node) :
    (e.announceNode tree node).value =
      if node.closes e.world.store then (e.scheduleEnd node).value else e := by
  rw [announceNode]
  simp only [Told.value_bind, Node.value_visible, List.length_eq_zero_iff, Node.closes]
  -- the engine asks in the order of these cases: visible choices, end node, automatic edge
  by_cases hshown : node.shown e.world.store = []
  · by_cases hend : node.isEnd = true
    · simp [hshown, hend]
    · by_cases hauto : node.autoNext = none <;> simp [hshown, hend, hauto]
  · simp [hshown]

/-- A node is announced by its display and then by the number of its visible choices. -/
@[simp] theorem notices_announceNode (e : Engine) (tree : IndexedTree) (node : Node) :
    (e.announceNode tree node).notices =
      [.event (.nodeDisplayed tree.tree node),
        .event (.choicesUpdated node (node.shown e.world.store).length)] := by
  rw [announceNode]
  simp only [Told.notices_bind, notices_emit, Node.notices_visible, Node.value_visible]
  split
  · split
    · simp
    · split <;> simp
  · simp

@[simp] theorem world_announceNode (e : Engine) (tree : IndexedTree) (node : Node) :
    (e.announceNode tree node).value.world = e.world := by
  rw [value_announceNode]
  split <;> rfl

@[simp] theorem active_announceNode (e : Engine) (tree : IndexedTree) (node : Node) :
    (e.announceNode tree node).value.active = e.active := by
  rw [value_announceNode]
  split <;> rfl

/-- Entering a node displays it. -/
theorem displaysNode_enter (e : Engine) (tree : IndexedTree) (node : Node) :
    displaysNode (e.enter tree node).notices = true := by
  simp [enter, Notice.isDisplay]

/-! ### What the phases write -/

/-- Ending a dialogue writes nothing. -/
theorem writes_endDialogue (e : Engine) : e.WritesTo e.endDialogue.notices e.endDialogue.value := by
  refine writesTo_of_world_eq e.world_endDialogue ?_
  rw [notices_endDialogue]
  split <;> rfl

/-- Announcing a node writes nothing. -/
theorem writes_announceNode (e : Engine) (tree : IndexedTree) (node : Node) :
    e.WritesTo (e.announceNode tree node).notices (e.announceNode tree node).value :=
  writesTo_of_world_eq (e.world_announceNode tree node) (by simp)

/-- Entering a node writes what its commands do. -/
theorem writes_enter (e : Engine) (tree : IndexedTree) (node : Node) :
    e.WritesTo (e.enter tree node).notices (e.enter tree node).value := by
  simp only [enter, Told.value_bind, Told.notices_bind, Told.notices_log, List.nil_append]
  exact (writes_runCommands { e with active := some ⟨tree, node.id⟩ } node.startCommands).trans
    (writes_announceNode _ tree node)

/-- Going on to a node changes the store by writes only. -/
theorem writes_showNode (e : Engine) (tree : IndexedTree) (name : Option String) :
    e.WritesTo (e.showNode tree name).notices (e.showNode tree name).value := by
  rw [showNode, Told.value_bind, Told.notices_bind]
  refine WritesTo.trans (d := e.cancelPendingEnd.value)
    (writesTo_of_world_eq e.world_cancelPendingEnd (by simp)) ?_
  rcases name with - | name
  · exact writes_endDialogue _
  · dsimp only
    rcases tree.node? name with - | node
    · exact writes_endDialogue _
    · exact writes_enter _ tree node

theorem writes_take (e : Engine) (tree : IndexedTree) (node : Node) (choice : Choice)
    (index : Nat) :
    e.WritesTo (e.take tree node choice index).notices (e.take tree node choice index).value := by
  have himpacts := e.writes_applyImpacts node choice.impacts
  have hcommands := writes_runCommands (e.applyImpacts node choice.impacts).value node.endCommands
  simp only [take, Told.value_bind, Told.notices_bind, Told.notices_log, List.nil_append]
  -- the choice is announced before anything is written
  exact WritesTo.trans (writesTo_of_world_eq rfl rfl)
    (himpacts.trans (hcommands.trans (writes_showNode _ _ _)))

theorem writes_leave (e : Engine) (tree : IndexedTree) (node : Node) :
    e.WritesTo (e.leave tree node).notices (e.leave tree node).value := by
  rw [leave]
  rcases node.autoNext with - | next
  · exact e.writes_endDialogue
  · rw [Told.value_bind, Told.notices_bind]
    exact (e.writes_runCommands node.endCommands).trans (writes_showNode _ tree (some next))

end Engine

end Storyline
