import Storyline.Proofs.Command.Display
import Storyline.Proofs.Dialogue.Calls
import Storyline.Proofs.Store.Setting

/-!
# What taking a choice amounts to

Taking a choice goes through impacts and through the commands of two nodes. Each impact and each
command is one small step in a world: it does nothing, or it makes one change, or it grants one
item (`World.impacted`, `World.obeyed`). The steps are taken one after the other, each in the world
that those before it left (`World.inTurn`), and what they tell stands in that order between the
choice and the node that follows, or the end (`World.chosen`).

These are definitions without an engine. That an engine does the same is shown for a single step
(`Store.addInt_spec`, `World.run_spec`), then for steps in turn by induction
(`Engine.applyImpacts_spec`, `Engine.runCommands_spec`), and then for the whole
(`Engine.take_spec`). A step never announces more than one change because no impact that is made
and no command that was read has a blank key.
-/

namespace Storyline

/-! ### Conditions and visible choices -/

/-- Whether an optional expression holds in a store: none at all does, one that is no condition does
not. -/
def Condition.holdsIn (store : Store) : Option String → Bool
  | none => true
  | some expression =>
    match parse expression with
    | .ok c => c.holds store
    | .error _ => false

@[simp] theorem Condition.value_evaluateOptional_eq {α : Type} (store : Store) (c : Option String) :
    (evaluateOptional store c : Told α Bool).value = holdsIn store c := by
  rcases c with - | expression
  · rfl
  · rw [evaluateOptional, evaluate, holdsIn]
    rcases parse expression with err | c <;> rfl

/-- The choices of a node whose conditions hold in a store. -/
def Node.choicesIn (n : Node) (store : Store) : List Choice :=
  n.choices.filter fun c ↦ Condition.holdsIn store c.condition

/-- They are the visible ones. -/
theorem Node.map_shown (n : Node) (store : Store) :
    (n.shown store).map (·.2) = n.choicesIn store := by
  suffices h : ∀ (i : Nat) (cs : List Choice),
      ((visibleFrom store i cs : Told Empty (List (Nat × Choice))).value).map (·.2) =
        cs.filter fun c ↦ Condition.holdsIn store c.condition from h 0 n.choices
  intro i cs
  induction cs generalizing i with
  | nil => rfl
  | cons c cs ih =>
    simp only [visibleFrom, Told.value_bind, Told.value_pure, Condition.value_evaluateOptional_eq,
      List.filter_cons]
    split
    · rw [List.map_cons, ih]
    · rw [ih]

/-- There are as many visible choices with positions as without. -/
theorem Node.length_shown (n : Node) (store : Store) :
    (n.shown store).length = (n.choicesIn store).length := by
  rw [← n.map_shown, List.length_map]

/-! ### Steps in a world -/

/-- The items once one has been granted; one that is held already is not held twice. -/
def Inventory.including (inv : Inventory) (item : String) : Inventory :=
  if inv.contains item then inv else ⟨inv.items ++ [item]⟩

@[simp] theorem Inventory.value_add {α : Type} (inv : Inventory) (item : String) :
    (inv.add item : Told α Inventory).value = inv.including item := by
  rw [add, including]
  split <;> rfl

/-- What steps tell, and the world that they leave. -/
structure Passage where
  notices : List Notice
  world : World
  deriving DecidableEq

namespace World

/-- Nothing is done. -/
def unmoved (w : World) : Passage := ⟨[], w⟩

/-- One change is made, and announced. -/
def changed (w : World) (c : Change) : Passage :=
  ⟨[.change c], { w with store := w.store.keeping c }⟩

/-- An item is granted, and announced. -/
def granted (w : World) (item : String) : Passage :=
  ⟨[.event (.itemGiven item)], { w with inventory := w.inventory.including item }⟩

/-- An impact is made under a key that is not blank, if its condition holds: there is one change,
and then the impact is announced. -/
def impacted (w : World) (i : Impact) : Passage :=
  if Text.isBlankText i.key = false ∧ Condition.holdsIn w.store i.condition = true then
    let change := w.changed (w.store.addition i.key i.delta)
    { change with notices := change.notices ++ [.event (.impactApplied i.key i.delta)] }
  else w.unmoved

/-- A command makes one change or grants an item; nothing is done for a text that is none. -/
def obeyed (w : World) (raw : String) : Passage :=
  match Command.parse raw with
  | .ok (.giveItem item) => w.granted item
  | .ok (.setFlag name) => w.changed (.bool (foldName name) true)
  | .ok (.clearFlag name) => w.changed (.bool (foldName name) false)
  | .ok (.adjustVar key delta) => w.changed (w.store.addition key delta)
  | .ok (.recordEnding label) => w.changed (.text endingKey label)
  | .error _ => w.unmoved

/-- Steps one after the other, each in the world that the one before it left. -/
def inTurn {α : Type} (step : World → α → Passage) : World → List α → Passage
  | w, [] => w.unmoved
  | w, a :: as =>
    let rest := inTurn step (step w a).world as
    { rest with notices := (step w a).notices ++ rest.notices }

end World

/-- What a call tells, and what it leaves: the node on screen, and the world. -/
structure Aftermath where
  notices : List Notice
  active : Option ActiveNode
  world : World
  deriving DecidableEq

/-- What taking a choice amounts to. The choice is announced; its impacts are made, and the commands
of the node that is left are run; then those of the node that follows, which is announced with its
visible choices. Where none follows, the end is announced. -/
def World.chosen (w : World) (tree : IndexedTree) (node : Node) (choice : Choice) (index : Nat) :
    Aftermath :=
  let impacts := inTurn impacted w choice.impacts
  let leaving := inTurn obeyed impacts.world node.endCommands
  let told := .event (.choiceSelected node choice index) :: impacts.notices ++ leaving.notices
  match choice.nextNode.bind tree.node? with
  | some next =>
    let entering := inTurn obeyed leaving.world next.startCommands
    let visible := (next.choicesIn entering.world.store).length
    { notices := told ++ entering.notices ++
        [.event (.nodeDisplayed tree.tree next), .event (.choicesUpdated next visible)]
      active := some ⟨tree, next.id⟩
      world := entering.world }
  | none => ⟨told ++ [.event .ended], none, leaving.world⟩

/-! ### Commands in a world -/

/-- The name in a command that was read is not blank. -/
theorem Command.Named.not_blank {c : Command} (h : c.Named) : Text.isBlankText c.name = false := by
  rw [Bool.eq_false_iff, Text.isBlankText, ne_eq, ← Text.trimChars_eq_nil_iff,
    Text.trimChars_of_trimmed h.trimmed]
  simpa using h.ne_empty

namespace World

/-- A write that makes one change of the store makes it in the world. -/
theorem withStore_spec (w : World) {c : Change} {x : Told Change Store}
    (h : x.notices = [c] ∧ x.value = w.store.keeping c) :
    (w.withStore x).notices = [c] ∧
      (w.withStore x).value = { w with store := w.store.keeping c } := by
  rw [withStore, Told.notices_bind, Told.value_bind, h.1, h.2]
  exact ⟨rfl, rfl⟩

/-- Running a command is the step that it stands for. -/
theorem run_spec (w : World) (raw : String) :
    (w.run raw).notices.map .change ++ Engine.grantNotices (w.run raw).value.1 =
        (w.obeyed raw).notices ∧
      (w.run raw).value.2 = (w.obeyed raw).world := by
  rw [run, obeyed]
  rcases hparse : Command.parse raw with err | command
  · exact ⟨rfl, rfl⟩
  · have hname := (Command.named_of_parse hparse).not_blank
    cases command with
    | giveItem item => simp [execute, granted, Engine.grantNotices]
    | setFlag name =>
      have h := w.withStore_spec (w.store.setBool_spec name hname true)
      simp [execute, changed, Engine.grantNotices, h]
    | clearFlag name =>
      have h := w.withStore_spec (w.store.setBool_spec name hname false)
      simp [execute, changed, Engine.grantNotices, h]
    | adjustVar key delta =>
      have h := w.withStore_spec (w.store.addInt_spec key hname delta)
      simp [execute, changed, Engine.grantNotices, h]
    | recordEnding label =>
      have hfold : foldName endingKey = endingKey := by decide +kernel
      have h := w.withStore_spec (w.store.setString_spec endingKey (by decide) label)
      rw [hfold] at h
      simp [execute, changed, Engine.grantNotices, h]

end World

/-! ### Steps of an engine -/

namespace Engine

/-- Running commands is to obey them in turn. -/
theorem runCommands_spec (e : Engine) (commands : List String) :
    (e.runCommands commands).notices = (World.inTurn World.obeyed e.world commands).notices ∧
      (e.runCommands commands).value =
        { e with world := (World.inTurn World.obeyed e.world commands).world } := by
  induction commands generalizing e with
  | nil => exact ⟨rfl, rfl⟩
  | cons raw rest ih =>
    obtain ⟨hnotices, hworld⟩ := e.world.run_spec raw
    obtain ⟨hrest, hvalue⟩ := ih { e with world := (e.world.obeyed raw).world }
    rw [notices_runCommands_cons, value_runCommands_cons, hnotices, hworld, hrest, hvalue]
    exact ⟨rfl, rfl⟩

/-- What an impact does in a store and announces is its step in the world. -/
theorem impactStep_spec (w : World) (i : Impact) :
    (impactStep w.store i).notices.map .change ++ impactNotices w.store i =
        (w.impacted i).notices ∧
      { w with store := (impactStep w.store i).value } = (w.impacted i).world := by
  rw [impactStep, impactNotices, World.impacted, Condition.value_evaluateOptional_eq]
  rcases hkey : Text.isBlankText i.key with - | -
  · obtain ⟨hnotices, hvalue⟩ := w.store.addInt_spec i.key hkey i.delta
    rcases Condition.holdsIn w.store i.condition with - | -
    · exact ⟨rfl, rfl⟩
    · simp [World.changed, hnotices, hvalue]
  · exact ⟨rfl, rfl⟩

/-- Applying impacts is to make them in turn. -/
theorem applyImpacts_spec (e : Engine) (node : Node) (impacts : List Impact) :
    (e.applyImpacts node impacts).notices =
        (World.inTurn World.impacted e.world impacts).notices ∧
      (e.applyImpacts node impacts).value =
        { e with world := (World.inTurn World.impacted e.world impacts).world } := by
  induction impacts generalizing e with
  | nil => exact ⟨rfl, rfl⟩
  | cons i rest ih =>
    obtain ⟨hnotices, hworld⟩ := impactStep_spec e.world i
    obtain ⟨hrest, hvalue⟩ := ih { e with world := (e.world.impacted i).world }
    rw [notices_applyImpacts_cons, value_applyImpacts_cons, hnotices, inStore, hworld, hrest,
      hvalue]
    exact ⟨rfl, rfl⟩

/-- Showing a node tells of the commands on entering it, then of the node. -/
theorem enter_spec (e : Engine) (tree : IndexedTree) (node : Node) :
    let entering := World.inTurn World.obeyed e.world node.startCommands
    (e.enter tree node).notices = entering.notices ++
        [.event (.nodeDisplayed tree.tree node),
          .event (.choicesUpdated node (node.choicesIn entering.world.store).length)] ∧
      (e.enter tree node).value.active = some ⟨tree, node.id⟩ ∧
      (e.enter tree node).value.world = entering.world := by
  obtain ⟨hnotices, hvalue⟩ :=
    runCommands_spec { e with active := some ⟨tree, node.id⟩ } node.startCommands
  simp [enter, hnotices, hvalue, Node.length_shown]

/-- Going on to no node, or to one that the tree does not have, ends the dialogue. -/
theorem showNode_of_none {e : Engine} {tree : IndexedTree} {name : Option String}
    (hactive : e.isActive = true) (h : name.bind tree.node? = none) :
    (e.showNode tree name).notices = [.event .ended] ∧
      (e.showNode tree name).value.active = none ∧
      (e.showNode tree name).value.world = e.world := by
  have hended : e.cancelPendingEnd.value.endDialogue.notices = [.event .ended] := by
    rw [notices_endDialogue, active_cancelPendingEnd]
    exact if_pos hactive
  rw [showNode, Told.notices_bind, Told.value_bind]
  rcases name with - | name
  · simp [hended]
  · have hnode : tree.node? name = none := h
    simp [hnode, hended]

/-- Going on to a node that the tree has enters it. -/
theorem showNode_of_some {e : Engine} {tree : IndexedTree} {name : Option String} {next : Node}
    (h : name.bind tree.node? = some next) :
    (e.showNode tree name).notices = (e.cancelPendingEnd.value.enter tree next).notices ∧
      (e.showNode tree name).value = (e.cancelPendingEnd.value.enter tree next).value := by
  obtain ⟨name, rfl, hnode⟩ := Option.bind_eq_some_iff.mp h
  simp [showNode, hnode]

/-- What taking a choice does to an engine. -/
theorem take_spec {e : Engine} (hactive : e.isActive = true) (tree : IndexedTree) (node : Node)
    (choice : Choice) (index : Nat) :
    let after := e.world.chosen tree node choice index
    (e.take tree node choice index).notices = after.notices ∧
      (e.take tree node choice index).value.active = after.active ∧
      (e.take tree node choice index).value.world = after.world := by
  obtain ⟨himpacts, hmade⟩ := e.applyImpacts_spec node choice.impacts
  let made : Engine :=
    { e with world := (World.inTurn World.impacted e.world choice.impacts).world }
  obtain ⟨hcommands, hleft⟩ := made.runCommands_spec node.endCommands
  let left : Engine :=
    { made with world := (World.inTurn World.obeyed made.world node.endCommands).world }
  have hnotices : (e.take tree node choice index).notices =
      .event (.choiceSelected node choice index) ::
        (World.inTurn World.impacted e.world choice.impacts).notices ++
          (World.inTurn World.obeyed made.world node.endCommands).notices ++
            (left.showNode tree choice.nextNode).notices := by
    simp [take, himpacts, hmade, hcommands, hleft, made, left]
  have hvalue : (e.take tree node choice index).value =
      (left.showNode tree choice.nextNode).value := by
    simp [take, hmade, hleft, made, left]
  rw [hnotices, hvalue, World.chosen]
  rcases hnext : choice.nextNode.bind tree.node? with - | next
  · obtain ⟨hended, hidle, hworld⟩ := showNode_of_none (e := left) hactive hnext
    rw [hended, hidle, hworld]
    exact ⟨rfl, rfl, rfl⟩
  · obtain ⟨hshown, hentered⟩ := showNode_of_some (e := left) hnext
    obtain ⟨hentering, hactive', hworld⟩ := left.cancelPendingEnd.value.enter_spec tree next
    rw [world_cancelPendingEnd] at hentering hworld
    rw [hshown, hentered, hentering, hactive', hworld]
    simp [left, made]

/-- A visible choice of the node on screen is taken. -/
theorem select_spec {e : Engine} {tree : IndexedTree} {node : Node} {choice : Choice} {index : Nat}
    (hnode : e.activeNode = .ok (tree, node))
    (hchoice : (node.choicesIn e.world.store)[index]? = some choice) :
    let after := e.world.chosen tree node choice index
    ∃ e', (e.select index).value = (.ok (), e') ∧ (e.select index).notices = after.notices ∧
      e'.active = after.active ∧ e'.world = after.world := by
  have hactive : e.isActive = true := by
    rw [activeNode] at hnode
    split at hnode
    · cases hnode
    · rename_i a ha
      rw [isActive, ha, Option.isSome_some]
  rcases e.select_cases index with ⟨err, herr, -⟩ | ⟨tree', node', hok, hcases⟩
  · cases hnode.symm.trans herr
  · cases hnode.symm.trans hok
    rw [← node.map_shown, List.getElem?_map] at hchoice
    rcases hcases with ⟨hnone, -⟩ | ⟨i, taken, hsome, hcarried⟩
    · rw [hnone] at hchoice
      cases hchoice
    · rw [hsome] at hchoice
      cases hchoice
      obtain ⟨hnotices, hafter⟩ := take_spec hactive tree node taken index
      exact ⟨_, hcarried.value, hcarried.notices.trans hnotices, hafter⟩

/-- Where the node on screen has no visible choice, taking it is refused. -/
theorem refused_select {e : Engine} {tree : IndexedTree} {node : Node} {index : Nat}
    (hnode : e.activeNode = .ok (tree, node))
    (h : (node.choicesIn e.world.store).length ≤ index) :
    ∃ err, Refused e (e.select index) err := by
  rcases e.select_cases index with ⟨err, -, hrefused⟩ | ⟨tree', node', hok, hcases⟩
  · exact ⟨err, hrefused⟩
  · cases hnode.symm.trans hok
    rcases hcases with ⟨-, hrefused⟩ | ⟨i, choice, hsome, -⟩
    · exact ⟨_, hrefused⟩
    · have hlt := (List.getElem?_eq_some_iff.mp hsome).1
      rw [node.length_shown] at hlt
      omega

end Engine

end Storyline
