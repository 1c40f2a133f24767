import Storyline.Proofs.Dialogue.Outcome

/-!
# When a closing comes due

Whatever a call does, it takes no time, and the timing of an engine is never changed. So a closing
that is set in the course of a call comes due when the node on screen has been there for its time,
counted from the call (`Engine.SetAnew`). A closing that was set earlier and is left waiting counts
from an earlier time; but then no node is displayed, and that a call displays a node is therefore
enough to tell when the closing comes due (`Engine.OnTime`).
-/

namespace Storyline

/-- The time for which a node stays on screen before it closes itself: the authored one where it
makes sense, and the default one elsewhere. -/
def Node.displayTime (n : Node) (settings : Settings) : Duration :=
  (displayDuration? n.displayDuration).getD settings.defaultDisplay

namespace Engine

variable {e e' : Engine}

/-- What waits comes due once the node on screen has been there for its time from now on. -/
def SetNow (e : Engine) : Prop :=
  ∀ node, e.currentNode? = some node → ∀ entry ∈ e.schedule.live,
    entry.2.due = e.now + node.displayTime e.settings

/-- Where no dialogue runs, no node has a time. -/
theorem setNow_of_idle (h : e.active = none) : e.SetNow := by
  intro node hnode
  rw [currentNode?, h] at hnode
  cases hnode

/-- Where nothing waits, nothing comes due at a wrong time. -/
theorem setNow_of_live_nil (h : e.schedule.live = []) : e.SetNow := by
  intro node _ entry hentry
  rw [h] at hentry
  cases hentry

/-- The dialogue of an engine `e` went on to `e'`: that took no time, and what waits has been set
anew. -/
structure SetAnew (e e' : Engine) : Prop where
  now : e'.now = e.now
  settings : e'.settings = e.settings
  setNow : e'.SetNow

/-- What was done before took no time either. -/
theorem SetAnew.after {d : Engine} (h : SetAnew d e') (hnow : d.now = e.now)
    (hsettings : d.settings = e.settings) : SetAnew e e' :=
  ⟨h.now.trans hnow, h.settings.trans hsettings, h.setNow⟩

/-! ### Phases -/

/-- Ending a dialogue takes no time and leaves nothing that waits. -/
theorem setAnew_endDialogue (hs : e.schedule.Sound) (ht : e.Timed) :
    SetAnew e e.endDialogue.value := by
  obtain ⟨schedule, hvalue, -, -, hnow⟩ := endDialogue_spec hs ht
  rw [hvalue]
  exact ⟨hnow, rfl, setNow_of_idle rfl⟩

/-- A node that is announced where nothing waits is given its time. -/
theorem setAnew_announceNode (hlive : e.schedule.live = []) {tree : IndexedTree} {node : Node}
    (hactive : e.active = some ⟨tree, node.id⟩) (hfound : tree.node? node.id = some node) :
    SetAnew e (e.announceNode tree node).value := by
  rw [value_announceNode]
  split
  · refine ⟨rfl, rfl, fun n hn entry hentry ↦ ?_⟩
    have hcurrent : (e.scheduleEnd node).value.currentNode? = some node := by
      show e.active.bind _ = some node
      rw [hactive]
      exact hfound
    obtain rfl : n = node := Option.some.inj (hn.symm.trans hcurrent)
    have hone : entry ∈ e.schedule.live ++ [(e.schedule.next, _)] := hentry
    rw [hlive, List.nil_append, List.mem_singleton] at hone
    rw [hone]
    rfl
  · exact ⟨rfl, rfl, setNow_of_live_nil hlive⟩

/-- Entering a node takes no time, and its closing is set from then on. -/
theorem setAnew_enter (hlive : e.schedule.live = []) {tree : IndexedTree} {node : Node}
    (hfound : tree.node? node.id = some node) : SetAnew e (e.enter tree node).value := by
  have hcommands := runCommands_eq { e with active := some ⟨tree, node.id⟩ } node.startCommands
  simp only [enter, Told.value_bind]
  rw [hcommands]
  refine (setAnew_announceNode ?_ ?_ hfound).after rfl rfl
  · exact hlive
  · rfl

/-- Going to a node sets anew what waits. -/
theorem setAnew_showNode (hs : e.schedule.Sound) (ht : e.Timed) (tree : IndexedTree)
    (name : Option String) : SetAnew e (e.showNode tree name).value := by
  obtain ⟨schedule, hvalue, hsound, hlive, hnow⟩ := cancelPendingEnd_spec hs ht
  have hended : SetAnew { e with schedule, pendingEnd := none }
      (endDialogue { e with schedule, pendingEnd := none }).value :=
    setAnew_endDialogue hsound (.inl ⟨rfl, hlive⟩)
  -- giving up what waited takes no time either
  suffices h : SetAnew { e with schedule, pendingEnd := none } (e.showNode tree name).value from
    h.after hnow rfl
  rw [showNode, Told.value_bind, hvalue]
  rcases name with - | name
  · exact hended
  · dsimp only
    rcases hnode : tree.node? name with - | node
    · exact hended
    · exact setAnew_enter (e := { e with schedule, pendingEnd := none }) hlive
        (IndexedTree.node?_id hnode)

/-- Taking a choice sets anew what waits. -/
theorem setAnew_take (hs : e.schedule.Sound) (ht : e.Timed) (tree : IndexedTree) (node : Node)
    (choice : Choice) (index : Nat) : SetAnew e (e.take tree node choice index).value := by
  have himpacts := applyImpacts_eq e node choice.impacts
  have hcommands := runCommands_eq (e.applyImpacts node choice.impacts).value node.endCommands
  simp only [take, Told.value_bind]
  rw [hcommands, himpacts]
  refine (setAnew_showNode ?_ ?_ tree choice.nextNode).after rfl rfl
  · exact hs
  · exact ht

/-- Leaving a node sets anew what waits. -/
theorem setAnew_leave (hs : e.schedule.Sound) (ht : e.Timed) (tree : IndexedTree) (node : Node) :
    SetAnew e (e.leave tree node).value := by
  rw [leave]
  rcases node.autoNext with - | next
  · exact setAnew_endDialogue hs ht
  · simp only [Told.value_bind]
    rw [runCommands_eq]
    refine (setAnew_showNode ?_ ?_ tree (some next)).after rfl rfl
    · exact hs
    · exact ht

/-- Resuming a dialogue sets anew what waits. -/
theorem setAnew_resume (hs : e.schedule.Sound) (ht : e.Timed) {tree : IndexedTree} {node : Node}
    (hfound : tree.node? node.id = some node) : SetAnew e (e.resume tree node).value := by
  obtain ⟨schedule, hvalue, -, hlive, hnow⟩ := cancelPendingEnd_spec hs ht
  rw [resume, Told.value_bind, hvalue]
  exact (setAnew_announceNode
    (e := { e with schedule, pendingEnd := none, active := some ⟨tree, node.id⟩ }) hlive rfl
    hfound).after hnow rfl

/-! ### Calls -/

/-- What becomes of the timing of an engine `e` that is now `e'`: it stays, and where a node was
displayed, that took no time and what waits has been set anew. -/
structure OnTime (e : Engine) (notices : List Notice) (e' : Engine) : Prop where
  settings : e'.settings = e.settings
  now : displaysNode notices = true → e'.now = e.now
  setNow : displaysNode notices = true → e'.SetNow

theorem SetAnew.onTime (h : SetAnew e e') (notices : List Notice) : OnTime e notices e' :=
  ⟨h.settings, fun _ ↦ h.now, fun _ ↦ h.setNow⟩

/-- Where no node is displayed, all that matters is the timing. -/
theorem onTime_of_silent {notices : List Notice} (hsettings : e'.settings = e.settings)
    (hsilent : displaysNode notices = false) : OnTime e notices e' where
  settings := hsettings
  now h := by simp [hsilent] at h
  setNow h := by simp [hsilent] at h

section Calls

variable {call : Told Notice (Except DialogueError Unit × Engine)}

/-- A call that is refused does not touch the timing. -/
theorem Refused.onTime {err : DialogueError} (h : Refused e call err) :
    OnTime e call.notices call.value.2 := by
  rw [h.value, h.notices]
  exact onTime_of_silent rfl rfl

/-- A call that is carried out is on time where its phase set the timing anew. -/
theorem CarriedOut.onTime {phase : Told Notice Engine} (h : CarriedOut call phase)
    (hphase : SetAnew e phase.value) : OnTime e call.notices call.value.2 := by
  rw [h.value]
  exact hphase.onTime _

/-- Starting a dialogue at a node is on time. -/
theorem onTime_startAt (hs : e.schedule.Sound) (ht : e.Timed) (tree : IndexedTree)
    (name : String) : OnTime e (e.startAt tree name).notices (e.startAt tree name).value.2 := by
  rcases e.startAt_cases tree name with ⟨-, h⟩ | ⟨node, -, h⟩
  · exact h.onTime
  · exact h.onTime (setAnew_showNode hs ht tree (some node.id))

theorem onTime_start (hs : e.schedule.Sound) (ht : e.Timed) (tree : IndexedTree) :
    OnTime e (e.start tree).notices (e.start tree).value.2 := by
  rcases e.start_cases tree with ⟨-, h⟩ | ⟨name, -, h⟩
  · exact h.onTime
  · rw [h]
    exact onTime_startAt hs ht tree name

/-- Resuming a dialogue at a node is on time. -/
theorem onTime_resumeAt (hs : e.schedule.Sound) (ht : e.Timed) (tree : IndexedTree)
    (name : String) : OnTime e (e.resumeAt tree name).notices (e.resumeAt tree name).value.2 := by
  rcases e.resumeAt_cases tree name with ⟨-, h⟩ | ⟨node, hnode, h⟩
  · exact h.onTime
  · exact h.onTime (setAnew_resume hs ht (IndexedTree.node?_id hnode))

/-- Taking a choice is on time. -/
theorem onTime_select (hs : e.schedule.Sound) (ht : e.Timed) (index : Nat) :
    OnTime e (e.select index).notices (e.select index).value.2 := by
  rcases e.select_cases index with ⟨err, -, h⟩ | ⟨tree, node, -, ⟨-, h⟩ | ⟨i, choice, -, h⟩⟩
  · exact h.onTime
  · exact h.onTime
  · exact h.onTime (setAnew_take hs ht tree node choice index)

/-- Going on is on time. -/
theorem onTime_advance (hs : e.schedule.Sound) (ht : e.Timed) :
    OnTime e e.advance.notices e.advance.value.2 := by
  rcases e.advance_cases with ⟨err, -, h⟩ | ⟨tree, node, -, ⟨-, h⟩ | ⟨-, h⟩⟩
  · exact h.onTime
  · exact h.onTime
  · exact h.onTime (setAnew_leave hs ht tree node)

/-- Ending a dialogue by force is on time. -/
theorem onTime_forceEnd (hs : e.schedule.Sound) (ht : e.Timed) :
    OnTime e e.forceEnd.notices e.forceEnd.value.2 := by
  rw [forceEnd]
  split
  · exact (setAnew_endDialogue hs ht).onTime _
  · exact onTime_of_silent rfl rfl

end Calls

/-- Moving the clock displays no node, so the timing stays unless the node is closed. -/
theorem onTime_update (he : e.Coherent) (elapsed : Duration) :
    OnTime e (e.update elapsed).notices (e.update elapsed).value := by
  rcases update_spec he elapsed with
    ⟨-, schedule, hupdate, -⟩ | ⟨-, schedule, hvalue, hnotices, -⟩
  · rw [hupdate]
    exact onTime_of_silent rfl rfl
  · rw [hvalue, hnotices]
    exact onTime_of_silent rfl rfl

end Engine

end Storyline
