import Storyline.Proofs.Dialogue.Calls
import Storyline.Proofs.Schedule.Queue
import Storyline.Proofs.Tree.Lookup

/-!
# What a call does to a dialogue

Whatever is asked of an engine, its dialogue and its timer do one of three things
(`Engine.Outcome`): they stay as they are, the dialogue ends and nothing waits any more, or a node
is shown and its closing waits exactly if the node closes itself. Here this is proved of each
call, from the specifications of the phases; the invariants of an engine are read off it.

The invariant that the phases rely on is `Engine.Coherent`: the schedule is sound, the node on
screen is found under its name, and either nothing waits, or one task does and it names the node
on screen.
-/

namespace Storyline

namespace Engine

variable {e : Engine}

/-! ### The invariant -/

/-- Nothing waits. -/
def Still (e : Engine) : Prop := e.pendingEnd = none ∧ e.schedule.live = []

/-- One task waits, the closing of a node. -/
def Armed (e : Engine) (id : String) : Prop :=
  ∃ handle t, e.pendingEnd = some handle ∧ e.schedule.live = [(handle, t)] ∧ t.task = id

/-- The parts of an engine agree. -/
structure Coherent (e : Engine) : Prop where
  /-- The schedule is sound. -/
  schedule : e.schedule.Sound
  /-- The node on screen is found under its name. -/
  active : ∀ a, e.active = some a → ∃ node, a.tree.node? a.nodeId = some node ∧ node.id = a.nodeId
  /-- Nothing waits, or the closing of the node on screen does. -/
  timer : e.Still ∨ ∃ a, e.active = some a ∧ e.Armed a.nodeId

/-- At most one task waits. -/
def Timed (e : Engine) : Prop := e.Still ∨ ∃ id, e.Armed id

theorem Coherent.timed (h : e.Coherent) : e.Timed :=
  h.timer.imp_right fun ⟨a, _, ha⟩ ↦ ⟨a.nodeId, ha⟩

/-- Where no dialogue runs, nothing waits. -/
theorem Coherent.still_of_idle (h : e.Coherent) (hidle : e.active = none) : e.Still := by
  rcases h.timer with hstill | ⟨a, ha, -⟩
  · exact hstill
  · rw [hidle] at ha
    cases ha

/-- A node is on screen, and its closing waits exactly if it closes itself. -/
structure Shows (e : Engine) (tree : IndexedTree) (node : Node) : Prop where
  active : e.active = some ⟨tree, node.id⟩
  found : tree.node? node.id = some node
  armed : node.closes e.world.store → e.Armed node.id
  still : ¬ node.closes e.world.store → e.Still

/-- The dialogue went on: it ended, or a node was shown and announced. -/
inductive Moved (notices : List Notice) (e : Engine) : Prop where
  | ended (active : e.active = none) (still : e.Still)
  | shown (tree : IndexedTree) (node : Node) (shows : e.Shows tree node)
      (displays : displaysNode notices = true)

/-- What became of an engine `e` that is now `e'`. The flag says whether the host wrote to the
store. -/
inductive Outcome (host : Bool) (e : Engine) (notices : List Notice) (e' : Engine) : Prop where
  | kept (active : e'.active = e.active) (pendingEnd : e'.pendingEnd = e.pendingEnd)
      (live : e'.schedule.live = e.schedule.live)
      (store : host = false → e'.world.store = e.world.store)
      (silent : displaysNode notices = false)
  | moved (h : Moved notices e')

theorem outcome_refl (host : Bool) (e : Engine) : Outcome host e [] e :=
  .kept rfl rfl rfl (fun _ ↦ rfl) rfl

/-- What was announced before the dialogue went on does not matter. -/
theorem Moved.prepend {notices : List Notice} (h : Moved notices e) (before : List Notice) :
    Moved (before ++ notices) e := by
  cases h with
  | ended active still => exact .ended active still
  | shown tree node shows displays => exact .shown tree node shows (by simp [displays])

/-- An engine whose parts agree, after its dialogue went on. -/
theorem Moved.coherent {notices : List Notice} (h : Moved notices e) (hs : e.schedule.Sound) :
    e.Coherent := by
  cases h with
  | ended active still =>
    exact ⟨hs, fun a ha ↦ by simp [active] at ha, .inl still⟩
  | shown tree node shows _ =>
    refine ⟨hs, fun a ha ↦ ?_, ?_⟩
    · rw [shows.active] at ha
      cases ha
      exact ⟨node, shows.found, rfl⟩
    · by_cases hcloses : node.closes e.world.store
      · exact .inr ⟨_, shows.active, shows.armed hcloses⟩
      · exact .inl (shows.still hcloses)

/-- A dialogue that went on has done so still after a step in which the host wrote nothing. -/
theorem Moved.andThen {before notices : List Notice} {e' : Engine} (h : Moved before e)
    (h' : Outcome false e notices e') : Moved (before ++ notices) e' := by
  cases h' with
  | moved h' => exact h'.prepend before
  | kept active pendingEnd live store silent =>
    have hstill : e.Still → e'.Still := by simp [Still, pendingEnd, live]
    have harmed (id : String) : e.Armed id → e'.Armed id := by simp [Armed, pendingEnd, live]
    cases h with
    | ended hactive still => exact .ended (active.trans hactive) (hstill still)
    | shown tree node shows displays =>
      -- the store is as it was when the node was shown, so it closes itself now if it did then
      refine .shown tree node ⟨active.trans shows.active, shows.found, fun hcloses ↦ ?_,
        fun hcloses ↦ ?_⟩ (by simp [displays])
      · rw [store rfl] at hcloses
        exact harmed _ (shows.armed hcloses)
      · rw [store rfl] at hcloses
        exact hstill (shows.still hcloses)

/-- Whatever became of a coherent engine is coherent again. -/
theorem Outcome.coherent {host : Bool} {notices : List Notice} {e' : Engine}
    (h : Outcome host e notices e') (he : e.Coherent) (hs : e'.schedule.Sound) : e'.Coherent := by
  cases h with
  | kept active pendingEnd live =>
    refine ⟨hs, active ▸ he.active, ?_⟩
    rw [Still, active, pendingEnd, live]
    simp only [Armed, pendingEnd, live]
    exact he.timer
  | moved h => exact h.coherent hs

/-! ### Closing -/

/-- Giving up the closing that waits leaves nothing that waits. -/
theorem cancelPendingEnd_spec (hs : e.schedule.Sound) (ht : e.Timed) :
    ∃ schedule : Schedule String,
      e.cancelPendingEnd.value = { e with schedule, pendingEnd := none } ∧
        schedule.Sound ∧ schedule.live = [] ∧ schedule.now = e.schedule.now := by
  rw [cancelPendingEnd]
  rcases ht with ⟨hpending, hlive⟩ | ⟨id, handle, t, hpending, hlive, -⟩
  · refine ⟨e.schedule, ?_, hs, hlive, rfl⟩
    rw [hpending]
    simp [← hpending]
  · rw [hpending]
    refine ⟨_, rfl, hs.cancel handle, ?_, Schedule.now_cancel _ _⟩
    -- the one live task is the one that is cancelled
    have hfind : e.schedule.isPending handle = true := by
      simp [Schedule.isPending, Schedule.find?, hlive]
    rw [Schedule.live_cancel, hfind, if_pos rfl, hlive]
    simp

/-- Ending a dialogue leaves an idle engine in which nothing waits. -/
theorem endDialogue_spec (hs : e.schedule.Sound) (ht : e.Timed) :
    ∃ schedule : Schedule String,
      e.endDialogue.value = { e with schedule, pendingEnd := none, active := none } ∧
        schedule.Sound ∧ schedule.live = [] ∧ schedule.now = e.schedule.now := by
  obtain ⟨schedule, hvalue, hsound, hlive, hnow⟩ := cancelPendingEnd_spec hs ht
  refine ⟨schedule, ?_, hsound, hlive, hnow⟩
  rw [endDialogue, Told.value_bind, hvalue]
  rcases hactive : e.active with - | a <;> simp

/-- Ending a dialogue leaves nothing that waits. -/
theorem moved_endDialogue (hs : e.schedule.Sound) (ht : e.Timed) :
    Moved e.endDialogue.notices e.endDialogue.value ∧ e.endDialogue.value.schedule.Sound := by
  obtain ⟨schedule, hvalue, hsound, hlive, -⟩ := endDialogue_spec hs ht
  rw [hvalue]
  exact ⟨.ended rfl ⟨rfl, hlive⟩, hsound⟩

/-! ### Showing nodes -/

/-- Scheduling the closing of a node where nothing waits leaves that one task. -/
theorem scheduleEnd_spec (hs : e.schedule.Sound) (hlive : e.schedule.live = []) (node : Node) :
    ∃ (schedule : Schedule String) (handle : Nat) (t : Deferred String),
      (e.scheduleEnd node).value = { e with schedule, pendingEnd := some handle } ∧
        schedule.Sound ∧ schedule.live = [(handle, t)] ∧ t.task = node.id := by
  let delay := (displayDuration? node.displayDuration).getD e.settings.defaultDisplay
  let note := some ("auto-close node '" ++ node.id ++ "'")
  refine ⟨_, e.schedule.next, ⟨e.schedule.now + delay, node.id, note⟩, rfl,
    hs.scheduleIn (α := Notice) delay node.id note, ?_, rfl⟩
  simp [Schedule.scheduleIn, hlive, delay, note]

/-- A node that is announced while nothing waits is on screen. -/
theorem shows_announceNode (hs : e.schedule.Sound) (hstill : e.Still) {tree : IndexedTree}
    {node : Node} (hactive : e.active = some ⟨tree, node.id⟩)
    (hfound : tree.node? node.id = some node) :
    (e.announceNode tree node).value.Shows tree node ∧
      (e.announceNode tree node).value.schedule.Sound := by
  rw [value_announceNode]
  split
  · rename_i hcloses
    obtain ⟨schedule, handle, t, hvalue, hsound, hlive, htask⟩ := scheduleEnd_spec hs hstill.2 node
    rw [hvalue]
    exact ⟨⟨hactive, hfound, fun _ ↦ ⟨handle, t, rfl, hlive, htask⟩, fun h ↦ absurd hcloses h⟩,
      hsound⟩
  · rename_i hcloses
    exact ⟨⟨hactive, hfound, fun h ↦ absurd h hcloses, fun _ ↦ hstill⟩, hs⟩

/-- A node of the tree is on screen once it is entered, provided nothing waits. -/
theorem shows_enter (hs : e.schedule.Sound) (hstill : e.Still) {tree : IndexedTree} {node : Node}
    (hfound : tree.node? node.id = some node) :
    (e.enter tree node).value.Shows tree node ∧ (e.enter tree node).value.schedule.Sound := by
  have hcommands := runCommands_eq { e with active := some ⟨tree, node.id⟩ } node.startCommands
  simp only [enter, Told.value_bind]
  rw [hcommands]
  exact shows_announceNode (e := { e with active := some ⟨tree, node.id⟩, world := _ }) hs hstill
    rfl hfound

/-- Going to a node ends at that node, or ends the dialogue where the tree has no such node. -/
theorem moved_showNode (hs : e.schedule.Sound) (ht : e.Timed) (tree : IndexedTree)
    (name : Option String) :
    Moved (e.showNode tree name).notices (e.showNode tree name).value ∧
      (e.showNode tree name).value.schedule.Sound := by
  obtain ⟨schedule, hvalue, hsound, hlive, -⟩ := cancelPendingEnd_spec hs ht
  have hstill : ({ e with schedule, pendingEnd := none } : Engine).Still := ⟨rfl, hlive⟩
  have hended :=
    moved_endDialogue (e := { e with schedule, pendingEnd := none }) hsound (.inl hstill)
  rw [showNode]
  simp only [Told.value_bind, Told.notices_bind, notices_cancelPendingEnd, hvalue, List.nil_append]
  -- a name that is missing from the tree ends the dialogue, and so does no name
  rcases name with - | name
  · exact hended
  · dsimp only
    rcases hnode : tree.node? name with - | node
    · exact hended
    · obtain ⟨hshows, hsound'⟩ := shows_enter (e := { e with schedule, pendingEnd := none }) hsound
        hstill (IndexedTree.node?_id hnode)
      exact ⟨.shown tree node hshows (displaysNode_enter _ tree node), hsound'⟩

/-- Taking a choice leads to its target or ends the dialogue. -/
theorem moved_take (hs : e.schedule.Sound) (ht : e.Timed) (tree : IndexedTree) (node : Node)
    (choice : Choice) (index : Nat) :
    Moved (e.take tree node choice index).notices (e.take tree node choice index).value ∧
      (e.take tree node choice index).value.schedule.Sound := by
  -- impacts and commands change the world alone, so the timer is still as it was
  have himpacts := applyImpacts_eq e node choice.impacts
  obtain ⟨hmoved, hsound⟩ := moved_showNode
    (e := ((e.applyImpacts node choice.impacts).value.runCommands node.endCommands).value)
    (by rw [runCommands_eq, himpacts]; exact hs) (by rw [runCommands_eq, himpacts]; exact ht) tree
    choice.nextNode
  rw [take]
  simp only [Told.value_bind, Told.notices_bind, Told.notices_log, notices_emit, List.nil_append]
  exact ⟨((hmoved.prepend _).prepend _).prepend _, hsound⟩

/-- A node that is left without a choice leads to its follower or ends the dialogue. -/
theorem moved_leave (hs : e.schedule.Sound) (ht : e.Timed) (tree : IndexedTree) (node : Node) :
    Moved (e.leave tree node).notices (e.leave tree node).value ∧
      (e.leave tree node).value.schedule.Sound := by
  rw [leave]
  rcases node.autoNext with - | next
  · exact moved_endDialogue hs ht
  · obtain ⟨hmoved, hsound⟩ := moved_showNode (e := (e.runCommands node.endCommands).value)
      (by rw [runCommands_eq]; exact hs) (by rw [runCommands_eq]; exact ht) tree (some next)
    simp only [Told.value_bind, Told.notices_bind]
    exact ⟨hmoved.prepend _, hsound⟩

/-- A dialogue that is resumed shows the node it is resumed at. -/
theorem moved_resume (hs : e.schedule.Sound) (ht : e.Timed) {tree : IndexedTree} {node : Node}
    (hfound : tree.node? node.id = some node) :
    Moved (e.resume tree node).notices (e.resume tree node).value ∧
      (e.resume tree node).value.schedule.Sound := by
  obtain ⟨schedule, hvalue, hsound, hlive, -⟩ := cancelPendingEnd_spec hs ht
  obtain ⟨hshows, hsound'⟩ := shows_announceNode
    (e := { e with schedule, pendingEnd := none, active := some ⟨tree, node.id⟩ }) hsound
    ⟨rfl, hlive⟩ rfl hfound
  rw [resume]
  simp only [Told.value_bind, Told.notices_bind, notices_cancelPendingEnd, hvalue]
  exact ⟨.shown tree node hshows (by simp [Notice.isDisplay]), hsound'⟩

/-! ### Calls -/

section Calls

variable {call : Told Notice (Except DialogueError Unit × Engine)} (host : Bool)

/-- A call that is refused leaves the engine as it was. -/
theorem Refused.outcome {err : DialogueError} (h : Refused e call err) (hs : e.schedule.Sound) :
    Outcome host e call.notices call.value.2 ∧ call.value.2.schedule.Sound := by
  rw [h.value, h.notices]
  exact ⟨outcome_refl host e, hs⟩

/-- What becomes of a call that is carried out is what became of its phase. -/
theorem CarriedOut.outcome {phase : Told Notice Engine} (h : CarriedOut call phase)
    (hphase : Moved phase.notices phase.value ∧ phase.value.schedule.Sound) :
    Outcome host e call.notices call.value.2 ∧ call.value.2.schedule.Sound := by
  rw [h.value, h.notices]
  exact ⟨.moved hphase.1, hphase.2⟩

/-- What becomes of starting a dialogue at a node: it goes on there, or nothing happens. -/
theorem outcome_startAt (hs : e.schedule.Sound) (ht : e.Timed) (tree : IndexedTree)
    (name : String) :
    Outcome host e (e.startAt tree name).notices (e.startAt tree name).value.2 ∧
      (e.startAt tree name).value.2.schedule.Sound := by
  rcases e.startAt_cases tree name with ⟨-, h⟩ | ⟨node, -, h⟩
  · exact h.outcome host hs
  · exact h.outcome host (moved_showNode hs ht tree (some node.id))

theorem outcome_start (hs : e.schedule.Sound) (ht : e.Timed) (tree : IndexedTree) :
    Outcome host e (e.start tree).notices (e.start tree).value.2 ∧
      (e.start tree).value.2.schedule.Sound := by
  rcases e.start_cases tree with ⟨-, h⟩ | ⟨name, -, h⟩
  · exact h.outcome host hs
  · rw [h]
    exact outcome_startAt host hs ht tree name

/-- What becomes of resuming a dialogue at a node. -/
theorem outcome_resumeAt (hs : e.schedule.Sound) (ht : e.Timed) (tree : IndexedTree)
    (name : String) :
    Outcome host e (e.resumeAt tree name).notices (e.resumeAt tree name).value.2 ∧
      (e.resumeAt tree name).value.2.schedule.Sound := by
  rcases e.resumeAt_cases tree name with ⟨-, h⟩ | ⟨node, hnode, h⟩
  · exact h.outcome host hs
  · exact h.outcome host (moved_resume hs ht (IndexedTree.node?_id hnode))

/-- What becomes of taking a choice. -/
theorem outcome_select (hs : e.schedule.Sound) (ht : e.Timed) (index : Nat) :
    Outcome host e (e.select index).notices (e.select index).value.2 ∧
      (e.select index).value.2.schedule.Sound := by
  rcases e.select_cases index with ⟨err, -, h⟩ | ⟨tree, node, -, ⟨-, h⟩ | ⟨i, choice, -, h⟩⟩
  · exact h.outcome host hs
  · exact h.outcome host hs
  · exact h.outcome host (moved_take hs ht tree node choice index)

/-- What becomes of going on from a node without choices. -/
theorem outcome_advance (hs : e.schedule.Sound) (ht : e.Timed) :
    Outcome host e e.advance.notices e.advance.value.2 ∧ e.advance.value.2.schedule.Sound := by
  rcases e.advance_cases with ⟨err, -, h⟩ | ⟨tree, node, -, ⟨-, h⟩ | ⟨-, h⟩⟩
  · exact h.outcome host hs
  · exact h.outcome host hs
  · exact h.outcome host (moved_leave hs ht tree node)

/-- What becomes of ending a dialogue by force. -/
theorem outcome_forceEnd (hs : e.schedule.Sound) (ht : e.Timed) :
    Outcome host e e.forceEnd.notices e.forceEnd.value.2 ∧ e.forceEnd.value.2.schedule.Sound := by
  rw [forceEnd]
  split
  · obtain ⟨hmoved, hsound⟩ := moved_endDialogue hs ht
    refine ⟨.moved ?_, hsound⟩
    simpa using hmoved
  · exact ⟨outcome_refl host e, hs⟩

end Calls

/-! ### Time -/

theorem pendingAutoEnd_of_still (h : e.Still) : e.pendingAutoEnd = false := by
  rw [pendingAutoEnd, h.1, Option.any_none]

/-- A closing waits only while a dialogue runs. -/
theorem Coherent.isActive_of_pending (he : e.Coherent) (h : e.pendingAutoEnd = true) :
    e.isActive = true := by
  rcases he.timer with hstill | ⟨a, ha, -⟩
  · simp [pendingAutoEnd_of_still hstill] at h
  · rw [isActive, ha, Option.isSome_some]

/-- What is known of an engine in which a closing waits. -/
theorem Armed.pending {id : String} (h : e.Armed id) :
    ∃ handle t, e.pendingEnd = some handle ∧ e.schedule.live = [(handle, t)] ∧
      e.pendingAutoEnd = true ∧ e.timeToEnd = t.due - e.now := by
  obtain ⟨handle, t, hpending, hlive, -⟩ := h
  refine ⟨handle, t, hpending, hlive, ?_, ?_⟩
  · simp [pendingAutoEnd, Schedule.isPending, Schedule.find?, hpending, hlive]
  · simp [timeToEnd, Schedule.find?, hpending, hlive]

/-- A dialogue is closed by the passing of time if a closing waits and no more time is left of it.
Otherwise only the clock moves. -/
theorem update_spec (he : e.Coherent) (elapsed : Duration) :
    (¬ (e.pendingAutoEnd = true ∧ e.timeToEnd ≤ elapsed) ∧ ∃ schedule : Schedule String,
      e.update elapsed = pure { e with schedule } ∧ schedule.Sound ∧
        schedule.live = e.schedule.live ∧ schedule.now = e.now + elapsed) ∨
    ((e.pendingAutoEnd = true ∧ e.timeToEnd ≤ elapsed) ∧ ∃ schedule : Schedule String,
      (e.update elapsed).value = { e with schedule, pendingEnd := none, active := none } ∧
        (e.update elapsed).notices = [.event .ended] ∧ schedule.Sound ∧ schedule.live = [] ∧
        schedule.now = e.now + elapsed) := by
  have hs := he.schedule.advance elapsed
  rw [update]
  rcases he.timer with hstill | ⟨a, ha, harmed⟩
  · obtain ⟨queue, hdrain, hsound⟩ := Schedule.drainAtMost_of_live_nil hs hstill.2
      (e.schedule.advance elapsed).queue.length
    refine .inl ⟨by simp [pendingAutoEnd_of_still hstill], _, ?_, hsound, rfl, rfl⟩
    rw [Schedule.drain, hdrain]
    rfl
  · obtain ⟨handle, t, hpending, hlive, hauto, htime⟩ := harmed.pending
    -- the closing comes out of the queue exactly if it is due on the clock moved forward
    rw [hauto, htime, ← Duration.not_add_lt_iff]
    rcases Schedule.drain_of_live_singleton hs hlive with
      ⟨hdue, queue, hdrain, hsound⟩ | ⟨hdue, queue, hdrain, hsound⟩
    · refine .inl ⟨fun h ↦ h.2 hdue, _, ?_, hsound, rfl, rfl⟩
      rw [hdrain]
      rfl
    · refine .inr ⟨⟨rfl, hdue⟩, _, ?_, ?_, hsound, rfl, rfl⟩
      · simp [hdrain, close, hpending, endDialogue, cancelPendingEnd, ha]
      · simp [hdrain, close, hpending, endDialogue, cancelPendingEnd, ha]

/-- What becomes of moving the clock: the node on screen is closed, or only the clock has moved. -/
theorem outcome_update (host : Bool) (he : e.Coherent) (elapsed : Duration) :
    Outcome host e (e.update elapsed).notices (e.update elapsed).value ∧
      (e.update elapsed).value.schedule.Sound := by
  rcases update_spec he elapsed with
    ⟨-, schedule, hupdate, hsound, hlive, -⟩ | ⟨-, schedule, hvalue, hnotices, hsound, hlive, -⟩
  · rw [hupdate]
    exact ⟨.kept rfl rfl hlive (fun _ ↦ rfl) rfl, hsound⟩
  · rw [hvalue, hnotices]
    exact ⟨.moved (.ended rfl ⟨rfl, hlive⟩), hsound⟩

end Engine

end Storyline
