import Storyline.Proofs.Dialogue.Mended
import Storyline.Proofs.Store.Replacement
import Storyline.Proofs.Tree.Sound

/-!
# Dialogues that come across no broken content

An engine does not stop at broken content: it passes it over and logs a warning. There are four
such warnings, for a command that cannot be read, a condition that cannot be read, an impact
without a variable, and a node that is missing from the tree (`Record.isFlaw`). A phase that logs
none of them is flawless (`Flawless`); a sequence is flawless if both of its parts are
(`flawless_bind`), so for each phase it is known exactly on which content it is
(`Engine.flawless_runCommands_iff`, `Engine.flawless_applyImpacts_iff`,
`Node.flawless_visible_iff`, `Engine.flawless_showNode_iff`).

In a sound tree all content is of that kind, and the nodes that follow are again nodes of the tree
(`Engine.Clean`). So what carries the development from phase to phase, besides the tree, is that
the node on screen belongs to it (`Engine.Plays`).
-/

namespace Storyline

/-! ### Warnings of broken content -/

/-- How the warnings begin by which an engine says that it passed over broken content. -/
def flawLeads : List String := ["content error: ", "skipping command \"", "condition \""]

/-- Whether a record is a warning of broken content. -/
def Record.isFlaw (r : Record) : Bool :=
  r.level == .warn && flawLeads.any fun lead ↦ lead.toList.isPrefixOf r.text.toList

@[simp] theorem isFlaw_info (text : String) : (⟨.info, text⟩ : Record).isFlaw = false := rfl

@[simp] theorem isFlaw_debug (text : String) : (⟨.debug, text⟩ : Record).isFlaw = false := rfl

/-! The warnings of the engine that are meant. -/

/-- The warning for a command that cannot be read. -/
theorem isFlaw_skippedCommand (raw error : String) :
    (⟨.warn, "skipping command \"" ++ raw ++ "\": " ++ error⟩ : Record).isFlaw = true := by
  simp [Record.isFlaw, flawLeads]

/-- The warning for a condition that cannot be read. -/
theorem isFlaw_unreadCondition (expression error : String) :
    (⟨.warn, "condition \"" ++ expression ++ "\" could not be evaluated: " ++ error⟩ :
      Record).isFlaw = true := by
  simp [Record.isFlaw, flawLeads]

/-- The warning for an impact without a variable. -/
theorem isFlaw_blankImpact (node : String) :
    (⟨.warn, "content error: impact with a blank key at node '" ++ node ++ "'"⟩ :
      Record).isFlaw = true := by
  simp [Record.isFlaw, flawLeads, List.isPrefixOf]

/-- The warning for a node that is missing from the tree. -/
theorem isFlaw_missingNode (tree name : String) :
    (⟨.warn, "content error: dialogue '" ++ tree ++ "' links to missing node '" ++ name ++
      "'; ending dialogue"⟩ : Record).isFlaw = true := by
  simp [Record.isFlaw, flawLeads, List.isPrefixOf]

/-- The warning of broken content that a signal is, if it is one. -/
def Signal.flaw? {α : Type} : Signal α → Option Record
  | .log r => if r.isFlaw then some r else none
  | .notice _ => none

/-- The warnings of broken content among signals. -/
def flaws {α : Type} (signals : List (Signal α)) : List Record := signals.filterMap Signal.flaw?

/-- No warning of broken content is given. -/
def Flawless {α β : Type} (x : Told α β) : Prop := flaws x.signals = []

section Flawless

variable {α β γ : Type}

@[simp] theorem flawless_pure (b : β) : Flawless (pure b : Told α β) := rfl

/-- A sequence is flawless if both parts are. -/
@[simp] theorem flawless_bind (x : Told α β) (f : β → Told α γ) :
    Flawless (x >>= f) ↔ Flawless x ∧ Flawless (f x.value) := by
  rw [Flawless, Told.signals_bind, flaws, List.filterMap_append, List.append_eq_nil_iff]
  rfl

@[simp] theorem flawless_map (f : β → γ) (x : Told α β) : Flawless (f <$> x) ↔ Flawless x := by
  rw [← bind_pure_comp, flawless_bind]
  exact and_iff_left (flawless_pure _)

/-- Logging a record is flawless unless the record is one of those warnings. -/
@[simp] theorem flawless_log (level : Level) (text : String) :
    Flawless (Told.log level text : Told α Unit) ↔ (⟨level, text⟩ : Record).isFlaw = false := by
  rw [Flawless, Told.log, flaws, List.filterMap_cons, Signal.flaw?]
  rcases (⟨level, text⟩ : Record).isFlaw <;> simp

@[simp] theorem flawless_notify (a : α) : Flawless (Told.notify a) := rfl

@[simp] theorem flawless_mapNotices (f : α → γ) (x : Told α β) :
    Flawless (x.mapNotices f) ↔ Flawless x := by
  have hsignal (s : Signal α) : (s.map f).flaw? = s.flaw? := by cases s <;> rfl
  rw [Flawless, Flawless, Told.mapNotices, flaws, flaws, List.filterMap_map,
    Function.comp_def]
  simp only [hsignal]

end Flawless

/-! ### The world -/

namespace Store

variable (s : Store)

@[simp] theorem flawless_announce (change : Change) : Flawless (announce change) := by
  simp [announce]

/-- A write under a blank key is logged too, but that is no flaw of content. -/
theorem flawless_writeAt (kind key : String) {write : String → Told Change Store}
    (h : ∀ k, Flawless (write k)) : Flawless (s.writeAt kind key write) := by
  rw [writeAt]
  rcases normalizeKey? key with - | k
  · simp [Record.isFlaw, flawLeads, List.isPrefixOf]
  · exact h k

/-- Replacing the values of a store comes across no content. -/
theorem flawless_replace (raw : Contents) : Flawless (s.replace raw) := by
  have hannounce (changes : List Change) :
      Flawless (forIn changes PUnit.unit fun change _ ↦ do
        announce change
        pure (.yield PUnit.unit) : Told Change PUnit) := by
    induction changes with
    | nil => rfl
    | cons change changes ih =>
      rw [List.forIn_cons, flawless_bind]
      exact ⟨by simp, ih⟩
  rw [replace, flawless_bind]
  exact ⟨hannounce _, flawless_pure _⟩

/-- Nothing that is done to a store comes across content. -/
theorem flawless_perform (w : Write) : Flawless (s.perform w) := by
  cases w with
  | setInt key v => exact s.flawless_writeAt _ _ fun k ↦ by simp
  | addInt key delta => exact s.flawless_writeAt _ _ fun k ↦ by simp
  | setBool key v => exact s.flawless_writeAt _ _ fun k ↦ by simp
  | toggleBool key => exact s.flawless_writeAt _ _ fun k ↦ by simp
  | setFloat key v => exact s.flawless_writeAt _ _ fun k ↦ by simp
  | setString key v => exact s.flawless_writeAt _ _ fun k ↦ by simp
  | reset => simpa [perform, reset] using s.flawless_replace _
  | restore saved => simpa [perform, restore] using s.flawless_replace saved

end Store

/-- Granting an item comes across no content. -/
@[simp] theorem Inventory.flawless_add {α : Type} (inv : Inventory) (item : String) :
    Flawless (inv.add item : Told α Inventory) := by
  rw [add]
  split <;> simp

namespace World

variable (w : World)

/-- A command that could be read is carried out without a warning. -/
theorem flawless_execute (command : Command) : Flawless (w.execute command) := by
  cases command with
  | giveItem id => simp [execute]
  | setFlag name =>
    simpa [execute, withStore, Store.perform] using w.store.flawless_perform (.setBool name true)
  | clearFlag name =>
    simpa [execute, withStore, Store.perform] using w.store.flawless_perform (.setBool name false)
  | adjustVar key delta =>
    simpa [execute, withStore, Store.perform] using w.store.flawless_perform (.addInt key delta)
  | recordEnding label =>
    simpa [execute, withStore, Store.perform] using
      w.store.flawless_perform (.setString endingKey label)

/-- A text that is read as a command is executed as that command. -/
theorem run_of_parse {raw : String} {command : Command} (h : Command.parse raw = .ok command) :
    (w.run raw).value = (some (w.execute command).value.1, (w.execute command).value.2) ∧
      (w.run raw).notices = (w.execute command).notices := by
  rw [run, h]
  simp

/-- A command is carried out without a warning exactly if it can be read. -/
theorem flawless_run_iff (raw : String) : Flawless (w.run raw) ↔ isCommand raw = true := by
  rw [run, isCommand]
  rcases Command.parse raw with err | command
  · simp [isFlaw_skippedCommand, Except.isOk, Except.toBool]
  · simp [w.flawless_execute command, Except.isOk, Except.toBool]

end World

/-- A condition is evaluated without a warning exactly if it can be read. -/
theorem Condition.flawless_evaluateOptional_iff {α : Type} (store : Store) (c : Option String) :
    Flawless (evaluateOptional store c : Told α Bool) ↔ isReadable c = true := by
  rcases c with - | expression
  · simp [evaluateOptional, isReadable]
  · rw [evaluateOptional, evaluate, isReadable]
    rcases parse expression with err | c
    · simp [isFlaw_unreadCondition, Except.isOk, Except.toBool]
    · simp [Except.isOk, Except.toBool]

/-- Visible choices are looked for without a warning if all conditions can be read. -/
theorem flawless_visibleFrom_iff {α : Type} (store : Store) (i : Nat) (cs : List Choice) :
    Flawless (visibleFrom store i cs : Told α (List (Nat × Choice))) ↔
      ∀ c ∈ cs, isReadable c.condition = true := by
  induction cs generalizing i with
  | nil => simp [visibleFrom]
  | cons c cs ih => simp [visibleFrom, Condition.flawless_evaluateOptional_iff, ih]

/-- The visible choices of a node are found without a warning exactly if the conditions of all its
choices can be read. -/
theorem Node.flawless_visible_iff {α : Type} (n : Node) (store : Store) :
    Flawless (n.visible store : Told α (List (Nat × Choice))) ↔
      ∀ c ∈ n.choices, isReadable c.condition = true :=
  flawless_visibleFrom_iff store 0 n.choices

namespace Engine

variable (e : Engine)

/-! ### Commands and impacts -/

@[simp] theorem flawless_emit (event : Event) : Flawless (emit event) := rfl

@[simp] theorem flawless_inWorld {β : Type} (x : Told Change β) :
    Flawless (inWorld x) ↔ Flawless x := flawless_mapNotices _ x

theorem flawless_withStore (w : Write) : Flawless (e.withStore (·.perform w)) := by
  simpa [withStore] using e.world.store.flawless_perform w

/-- Commands are run without a warning exactly if all of them can be read. -/
theorem flawless_runCommands_iff (commands : List String) :
    Flawless (e.runCommands commands) ↔ ∀ raw ∈ commands, isCommand raw = true := by
  induction commands generalizing e with
  | nil => simp [runCommands]
  | cons raw rest ih =>
    rw [List.forall_mem_cons, ← e.world.flawless_run_iff raw, runCommands, flawless_bind,
      flawless_inWorld, value_inWorld]
    refine and_congr_right fun _ ↦ ?_
    rcases (e.world.run raw).value with ⟨_ | _ | id, world⟩ <;> simp [ih]

/-- Commands are executed one after the other, each in the world that those before it left, and
this is what is announced on the way. There is no step for a text that is none, so all of them are
read and not one is skipped. -/
inductive Executed : World → List String → List Notice → World → Prop where
  | nil (w : World) : Executed w [] [] w
  | cons {w after : World} {raw : String} {rest : List String} {command : Command}
      {notices : List Notice} (hread : Command.parse raw = .ok command)
      (hrest : Executed (w.execute command).value.2 rest notices after) :
      Executed w (raw :: rest)
        ((w.execute command).notices.map .change ++
          grantNotices (some (w.execute command).value.1) ++ notices) after

/-- What was executed could be read. -/
theorem Executed.isCommand {w after : World} {commands : List String} {notices : List Notice}
    (h : Executed w commands notices after) : ∀ raw ∈ commands, isCommand raw = true := by
  induction h with
  | nil w => simp
  | cons hread _ ih =>
    refine List.forall_mem_cons.mpr ⟨?_, ih⟩
    rw [Storyline.isCommand, hread]
    rfl

/-- Commands that can be read are executed in their order, all of them. -/
theorem executed_runCommands_iff (commands : List String) :
    Executed e.world commands (e.runCommands commands).notices
        (e.runCommands commands).value.world ↔
      ∀ raw ∈ commands, isCommand raw = true := by
  refine ⟨Executed.isCommand, fun h ↦ ?_⟩
  induction commands generalizing e with
  | nil => exact .nil _
  | cons raw rest ih =>
    obtain ⟨hraw, hrest⟩ := List.forall_mem_cons.mp h
    rcases hread : Command.parse raw with err | command
    · rw [Storyline.isCommand, hread] at hraw
      cases hraw
    · obtain ⟨hvalue, hnotices⟩ := e.world.run_of_parse hread
      rw [value_runCommands_cons, notices_runCommands_cons, hvalue, hnotices]
      exact .cons hread (ih { e with world := (e.world.execute command).value.2 } hrest)

/-- Impacts are made without a warning exactly if all of them can be used. -/
theorem flawless_applyImpacts_iff (node : Node) (impacts : List Impact) :
    Flawless (e.applyImpacts node impacts) ↔ ∀ i ∈ impacts, i.isUsable = true := by
  induction impacts generalizing e with
  | nil => simp [applyImpacts]
  | cons i rest ih =>
    rw [List.forall_mem_cons, applyImpacts]
    split
    · rename_i hblank
      simp [Impact.isUsable, hblank, isFlaw_blankImpact]
    · rename_i hblank
      have husable : i.isUsable = true ↔ isReadable i.condition = true := by
        simp [Impact.isUsable, hblank]
      rw [husable, flawless_bind, Condition.flawless_evaluateOptional_iff]
      refine and_congr_right fun _ ↦ ?_
      have hstore : Flawless (e.withStore (·.addInt i.key i.delta)) :=
        e.flawless_withStore (.addInt i.key i.delta)
      split
      · simpa [ih] using fun _ ↦ hstore
      · simp [ih]

/-! ### Phases in a tree -/

/-- The node on screen, if there is one, is in the tree. -/
def Plays (t : IndexedTree) (e : Engine) : Prop := ∀ a, e.active = some a → a.tree = t

/-- A phase comes across no broken content, and leaves a node of the tree on screen or none. -/
structure Clean (t : IndexedTree) (phase : Told Notice Engine) : Prop where
  /-- No warning of broken content is given. -/
  flawless : Flawless phase
  /-- The node on screen is in the tree. -/
  plays : phase.value.Plays t

variable {t : IndexedTree} {node : Node}

/-- An engine that is idle has no node on screen outside of the tree. -/
theorem plays_of_idle {e : Engine} (h : e.active = none) : e.Plays t := by
  intro a ha
  rw [h] at ha
  cases ha

/-- A phase is clean whose first part is flawless and whose second is clean. -/
theorem Clean.bind {β : Type} {x : Told Notice β} {f : β → Told Notice Engine} (hx : Flawless x)
    (hf : Clean t (f x.value)) : Clean t (x >>= f) where
  flawless := (flawless_bind x f).mpr ⟨hx, hf.flawless⟩
  plays := hf.plays

@[simp] theorem flawless_cancelPendingEnd : Flawless e.cancelPendingEnd := by
  rw [cancelPendingEnd]
  rcases e.pendingEnd with - | handle
  · simp
  · rw [flawless_bind, Schedule.cancel, Schedule.cancelWithin]
    refine ⟨?_, flawless_pure _⟩
    rcases e.schedule.find? handle with - | task <;> simp

/-- Ending a dialogue comes across no content. -/
theorem clean_endDialogue : Clean t e.endDialogue where
  flawless := by
    rw [endDialogue, flawless_bind]
    refine ⟨e.flawless_cancelPendingEnd, ?_⟩
    split <;> simp
  plays := plays_of_idle e.active_endDialogue

@[simp] theorem flawless_scheduleEnd : Flawless (e.scheduleEnd node) := by
  simp [scheduleEnd, Schedule.scheduleIn]

/-- A sound node is announced without a warning. -/
theorem flawless_announceNode (hnode : node.Sound t.knows) : Flawless (e.announceNode t node) := by
  have hvisible : Flawless (node.visible e.world.store : Told Notice (List (Nat × Choice))) :=
    (node.flawless_visible_iff _).mpr fun c hc ↦ (hnode.choices c hc).condition
  simp only [announceNode, flawless_bind, flawless_emit, hvisible, true_and]
  split
  · split
    · simp
    · split
      · -- a dead end is warned of too, but there is nothing in it that cannot be used
        simp [Record.isFlaw, flawLeads, List.isPrefixOf]
      · simp
  · simp

/-- A sound node is entered without a warning, and is on screen then. -/
theorem clean_enter (hnode : node.Sound t.knows) : Clean t (e.enter t node) := by
  have hcommands := (runCommands_congr (e := { e with active := some ⟨t, node.id⟩ }) rfl
    node.startCommands).1
  constructor
  · simp only [enter, flawless_bind, flawless_log, isFlaw_info, flawless_runCommands_iff, true_and]
    exact ⟨hnode.startCommands, flawless_announceNode _ hnode⟩
  · intro a ha
    simp only [enter, Told.value_bind, active_announceNode] at ha
    rw [hcommands] at ha
    cases ha
    rfl

/-- Going on to a node that the tree knows, or to none. -/
theorem clean_showNode (ht : t.Sound) {name : Option String}
    (hname : ∀ n, name = some n → t.knows n = true) : Clean t (e.showNode t name) := by
  refine .bind e.flawless_cancelPendingEnd ?_
  rcases name with - | name
  · exact clean_endDialogue _
  · dsimp only
    obtain ⟨node, hnode⟩ := Option.isSome_iff_exists.mp (hname name rfl)
    rw [hnode]
    exact clean_enter _ (ht.nodes name node hnode)

/-- In a sound tree, a node that is gone on to gives a warning exactly if the tree does not know
it. -/
theorem flawless_showNode_iff (ht : t.Sound) (name : String) :
    Flawless (e.showNode t (some name)) ↔ t.knows name = true := by
  constructor
  · intro hflawless
    rcases hnode : t.node? name with - | node
    · simp [showNode, hnode, isFlaw_missingNode] at hflawless
    · rw [IndexedTree.knows, hnode, Option.isSome_some]
  · intro hknown
    refine (clean_showNode e ht fun n hn ↦ ?_).flawless
    rwa [← Option.some.inj hn]

/-- A choice of a sound node is taken without a warning: its impacts can be used, and it leads to a
node of the tree. -/
theorem clean_take (ht : t.Sound) (hnode : node.Sound t.knows) {choice : Choice}
    (hchoice : choice ∈ node.choices) (index : Nat) : Clean t (e.take t node choice index) := by
  have hsound := hnode.choices choice hchoice
  refine .bind (by simp) (.bind (flawless_emit _) (.bind ?_ (.bind ?_ ?_)))
  · exact (flawless_applyImpacts_iff _ node _).mpr hsound.impacts
  · exact (flawless_runCommands_iff _ _).mpr hnode.endCommands
  · exact clean_showNode _ ht hsound.nextNode

/-- A sound node without visible choices is left without a warning. -/
theorem clean_leave (ht : t.Sound) (hnode : node.Sound t.knows) : Clean t (e.leave t node) := by
  rw [leave]
  split
  · rename_i next hnext
    refine .bind ((flawless_runCommands_iff _ _).mpr hnode.endCommands) (clean_showNode _ ht ?_)
    intro name hname
    exact hnode.autoNext name (hnext.trans hname)
  · exact .bind (by simp) (clean_endDialogue _)

/-! ### Calls in a tree -/

/-- An operation with an answer comes across no broken content, and leaves a node of the tree on
screen or none. -/
structure CleanCall {β : Type} (t : IndexedTree) (call : Told Notice (β × Engine)) : Prop where
  /-- No warning of broken content is given. -/
  flawless : Flawless call
  /-- The node on screen is in the tree. -/
  plays : call.value.2.Plays t

variable {e : Engine}

/-- A refusal is no warning of broken content. -/
theorem cleanCall_refuse (he : e.Plays t) (err : DialogueError) : CleanCall t (e.refuse err) where
  flawless := by simp [Engine.refuse, Record.isFlaw, flawLeads, List.isPrefixOf]
  plays := he

/-- A call that is carried out is as clean as its phase. -/
theorem Clean.carryOut {phase : Told Notice Engine} (h : Clean t phase) :
    CleanCall t (carryOut phase) where
  flawless := by simp [Engine.carryOut, h.flawless]
  plays := h.plays

/-- A call that first looks for the visible choices. -/
theorem cleanCall_visible {β : Type} (hnode : node.Sound t.knows) (store : Store)
    {call : List (Nat × Choice) → Told Notice (β × Engine)}
    (h : CleanCall t (call (node.shown store))) : CleanCall t (node.visible store >>= call) where
  flawless := by
    rw [flawless_bind, Node.value_visible]
    refine ⟨?_, h.flawless⟩
    exact (node.flawless_visible_iff store).mpr fun c hc ↦ (hnode.choices c hc).condition
  plays := by
    rw [Told.value_bind, Node.value_visible]
    exact h.plays

/-- Starting a sound tree at a node is clean, and so is being refused. -/
theorem cleanCall_startAt (ht : t.Sound) (he : e.Plays t) (name : String) :
    CleanCall t (e.startAt t name) := by
  rw [startAt]
  rcases hnode : t.node? name with - | node
  · exact cleanCall_refuse he _
  · refine Clean.carryOut ?_
    have hshow : Clean t (e.showNode t (some node.id)) := by
      refine clean_showNode e ht fun n hn ↦ ?_
      rw [← Option.some.inj hn, IndexedTree.knows, IndexedTree.node?_id hnode, Option.isSome_some]
    rcases e.active with - | a
    · exact .bind (by simp) hshow
    · exact .bind (by simp) (.bind (by simp) hshow)

theorem cleanCall_start (ht : t.Sound) (he : e.Plays t) : CleanCall t (e.start t) := by
  rw [start]
  rcases t.tree.startNode with - | name
  · exact cleanCall_refuse he _
  · exact cleanCall_startAt ht he name

theorem cleanCall_resumeAt (ht : t.Sound) (he : e.Plays t) (name : String) :
    CleanCall t (e.resumeAt t name) := by
  rw [resumeAt]
  rcases hnode : t.node? name with - | node
  · exact cleanCall_refuse he _
  · refine Clean.carryOut (.bind e.flawless_cancelPendingEnd (.bind (by simp) ⟨?_, ?_⟩))
    · exact flawless_announceNode _ (ht.nodes name node hnode)
    · intro a ha
      rw [active_announceNode] at ha
      cases ha
      rfl

/-- The node from which a dialogue in a sound tree goes on is sound. -/
theorem sound_of_activeNode (ht : t.Sound) (he : e.Plays t) {tree : IndexedTree}
    (h : e.activeNode = .ok (tree, node)) : tree = t ∧ node.Sound t.knows := by
  rw [activeNode] at h
  rcases hactive : e.active with - | a
  · rw [hactive] at h
    cases h
  · have htree := he a hactive
    rw [hactive] at h
    dsimp only at h
    split at h
    · cases h
    · rename_i hnode
      cases h
      rw [htree] at hnode
      exact ⟨htree, ht.nodes a.nodeId _ hnode⟩

/-- Taking a choice is clean: the node on screen is one of the tree, hence sound. -/
theorem cleanCall_select (ht : t.Sound) (he : e.Plays t) (index : Nat) :
    CleanCall t (e.select index) := by
  rw [select]
  rcases hactive : e.activeNode with err | ⟨tree, node⟩
  · exact cleanCall_refuse he err
  · obtain ⟨rfl, hnode⟩ := sound_of_activeNode ht he hactive
    refine cleanCall_visible hnode _ ?_
    rcases hchoice : (node.shown e.world.store)[index]? with - | ⟨i, choice⟩
    · exact cleanCall_refuse he _
    · have hmem : choice ∈ node.choices := by
        have hshown : choice ∈ (node.shown e.world.store).map (·.2) :=
          List.mem_map_of_mem (List.mem_of_getElem? hchoice)
        rw [Node.choices_shown] at hshown
        exact (List.mem_filter.mp hshown).1
      exact (clean_take e ht hnode hmem index).carryOut

theorem cleanCall_advance (ht : t.Sound) (he : e.Plays t) : CleanCall t e.advance := by
  rw [advance]
  rcases hactive : e.activeNode with err | ⟨tree, node⟩
  · exact cleanCall_refuse he err
  · obtain ⟨rfl, hnode⟩ := sound_of_activeNode ht he hactive
    refine cleanCall_visible hnode _ ?_
    dsimp only
    split
    · exact cleanCall_refuse he _
    · exact (clean_leave e ht hnode).carryOut

/-- Ending a dialogue by force is clean. -/
theorem cleanCall_forceEnd (he : e.Plays t) : CleanCall t e.forceEnd := by
  have hend : Clean t e.endDialogue := clean_endDialogue e
  rw [forceEnd]
  split
  · constructor
    · simp [hend.flawless]
    · exact hend.plays
  · constructor
    · simp
    · exact he

/-- Closing an end node is clean. -/
theorem clean_close (he : e.Plays t) (due : Nat × Deferred String) : Clean t (e.close due) := by
  rw [close]
  split
  · exact .bind (by simp) (clean_endDialogue _)
  · exact ⟨flawless_pure _, he⟩

theorem clean_update (he : e.Plays t) (elapsed : Duration) : Clean t (e.update elapsed) := by
  -- the tasks that have come due are closings, one after the other
  have hfold (due : List (Nat × Deferred String)) (d : Engine) (hd : d.Plays t) :
      Clean t (due.foldlM close d) := by
    induction due generalizing d with
    | nil => exact ⟨flawless_pure d, hd⟩
    | cons task due ih =>
      have hclose := clean_close hd task
      rw [List.foldlM_cons]
      exact .bind hclose.flawless (ih _ hclose.plays)
  exact hfold _ _ he

end Engine

namespace Snapshot

variable {e : Engine} {t : IndexedTree}

/-- Putting back saved values and items is clean, and leaves no node on screen. -/
theorem clean_restoreWorld (s : Snapshot) (he : e.Plays t) : Engine.Clean t (s.restoreWorld e) := by
  have hend := Engine.cleanCall_forceEnd he
  refine .bind hend.flawless (.bind ?_ ⟨flawless_pure _, ?_⟩)
  · exact Engine.flawless_withStore _ (.restore s.store)
  · exact hend.plays

/-- The tree in which a dialogue goes on is the one that is at hand. -/
theorem eq_some_of_position {s : Snapshot} {tree : Option IndexedTree} {t' : IndexedTree}
    {name : String} (h : s.position tree = .ok (some (t', name))) : tree = some t' := by
  rw [position] at h
  split at h
  · split at h
    · cases h
    · split at h
      · cases h
        rfl
      · cases h
  · cases h

/-- A snapshot is put back into the tree or into none. -/
theorem cleanCall_apply (s : Snapshot) (ht : t.Sound) (he : e.Plays t) {tree : Option IndexedTree}
    (htree : ∀ t', tree = some t' → t' = t) : Engine.CleanCall t (s.apply e tree) := by
  have hrestore := s.clean_restoreWorld he
  rcases hposition : s.position tree with err | - | ⟨t', name⟩
  · rw [apply, hposition]
    exact ⟨flawless_pure _, he⟩
  · rw [apply, hposition]
    exact ⟨by simp [hrestore.flawless], hrestore.plays⟩
  · obtain rfl : t' = t := htree t' (eq_some_of_position hposition)
    have hresume := Engine.cleanCall_resumeAt ht hrestore.plays name
    rw [apply, hposition]
    exact ⟨by simp [hrestore.flawless, hresume.flawless], hresume.plays⟩

end Snapshot

end Storyline
