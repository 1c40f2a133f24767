import Storyline.Proofs.Saved.Restore

/-!
# What a call tells of the dialogue

A listener hears of a dialogue when a node is displayed and when it is over; what else it hears in
between does not say what is on screen (`Silent`). Each call tells one tale (`Engine.Tale`): nothing
of the screen, and the node on it stays; or at last that the dialogue is over, which it then is; or
at last that a node is displayed, with the number of its visible choices, and it is on screen then.

Putting a snapshot back tells up to three tales, one behind the other (`Engine.Chronicle`). A node
is displayed by the last of them if at all, so that whatever is asked of an engine, nothing comes
behind a node that is displayed but the number of its choices (`Engine.DisplaysLast`).
-/

namespace Storyline

/-- Whether an event says what is on screen from then on. -/
def Event.isScreen : Event → Bool
  | .nodeDisplayed _ _ | .ended => true
  | _ => false

/-- The event that a notice announces. -/
def Notice.event? : Notice → Option Event
  | .change _ => none
  | .event e => some e

/-- The events among notices. -/
def eventsOf (notices : List Notice) : List Event := notices.filterMap Notice.event?

@[simp] theorem eventsOf_append (ms ns : List Notice) :
    eventsOf (ms ++ ns) = eventsOf ms ++ eventsOf ns := List.filterMap_append

theorem mem_eventsOf {event : Event} {notices : List Notice} :
    event ∈ eventsOf notices ↔ .event event ∈ notices := by
  rw [eventsOf, List.mem_filterMap]
  constructor
  · rintro ⟨c | d, hn, hevent⟩
    · cases hevent
    · rwa [← Option.some.inj hevent]
  · exact fun h ↦ ⟨_, h, rfl⟩

/-! ### Silence -/

/-- Notices that do not say what is on screen. -/
def Silent (notices : List Notice) : Prop := ∀ e ∈ eventsOf notices, e.isScreen = false

theorem silent_nil : Silent [] := fun e he ↦ by simp [eventsOf] at he

theorem Silent.append {ms ns : List Notice} (hm : Silent ms) (hn : Silent ns) :
    Silent (ms ++ ns) := by
  intro e he
  rw [eventsOf_append, List.mem_append] at he
  exact he.elim (hm e) (hn e)

/-- Changes of variables say nothing of the screen. -/
theorem silent_map_change (cs : List Change) : Silent (cs.map .change) := by
  intro e he
  obtain ⟨c, -, hevent⟩ := List.mem_map.mp (mem_eventsOf.mp he)
  cases hevent

theorem silent_event {e : Event} (h : e.isScreen = false) : Silent [.event e] := by
  intro d hd
  obtain rfl : d = e := by simpa [eventsOf, Notice.event?] using hd
  exact h

theorem Silent.ended_not_mem {notices : List Notice} (h : Silent notices) :
    .ended ∉ eventsOf notices := fun he ↦ by cases h _ he

theorem Silent.displayed_not_mem {notices : List Notice} (h : Silent notices) (tree : Tree)
    (node : Node) : .nodeDisplayed tree node ∉ eventsOf notices := fun he ↦ by cases h _ he

/-- Where no node is displayed, no event says so. -/
theorem displayed_not_mem_of_displaysNode {notices : List Notice}
    (h : displaysNode notices = false) (tree : Tree) (node : Node) :
    .nodeDisplayed tree node ∉ eventsOf notices := by
  intro he
  have hsilent := List.any_eq_false.mp h _ (mem_eventsOf.mp he)
  exact hsilent rfl

namespace Engine

variable {e d e' : Engine}

/-- Commands say nothing of the screen. -/
theorem silent_runCommands (e : Engine) (commands : List String) :
    Silent (e.runCommands commands).notices := by
  induction commands generalizing e with
  | nil => exact silent_nil
  | cons raw rest ih =>
    rw [notices_runCommands_cons]
    refine ((silent_map_change _).append ?_).append (ih _)
    rcases (e.world.run raw).value.1 with - | - | id
    · exact silent_nil
    · exact silent_nil
    · exact silent_event rfl

theorem silent_applyImpacts (e : Engine) (node : Node) (impacts : List Impact) :
    Silent (e.applyImpacts node impacts).notices := by
  induction impacts generalizing e with
  | nil => exact silent_nil
  | cons i rest ih =>
    rw [notices_applyImpacts_cons]
    refine ((silent_map_change _).append ?_).append (ih _)
    rw [impactNotices]
    split
    · exact silent_nil
    · split
      · exact silent_event rfl
      · exact silent_nil

/-! ### Tales -/

/-- A node is on screen that is found in its tree. -/
structure Displays (e : Engine) (tree : Tree) (node : Node) : Prop where
  active : ∃ t, t.tree = tree ∧ e.active = some ⟨t, node.id⟩ ∧ t.node? node.id = some node

/-- What an engine `e` that is now `e'` has told of its dialogue. -/
inductive Tale (e : Engine) (notices : List Notice) (e' : Engine) : Prop where
  /-- Nothing of the screen, and the same node is on it. -/
  | kept (active : e'.active = e.active) (silent : Silent notices)
  /-- That the dialogue is over, and nothing behind that. -/
  | ended (before : List Notice) (told : notices = before ++ [.event .ended])
      (silent : Silent before) (wasActive : e.isActive = true) (active : e'.active = none)
  /-- That a node is displayed, with so many choices as are visible then, and nothing behind
  that. -/
  | shown (before : List Notice) (tree : Tree) (node : Node)
      (told : notices = before ++ [.event (.nodeDisplayed tree node),
        .event (.choicesUpdated node (node.shown e'.world.store).length)])
      (silent : Silent before) (displays : e'.Displays tree node)

theorem tale_refl (e : Engine) : Tale e [] e := .kept rfl silent_nil

/-- A tale is the same tale behind notices that say nothing of the screen. -/
theorem Tale.prepend {before notices : List Notice} (h : Tale d notices e')
    (hactive : d.active = e.active) (hsilent : Silent before) :
    Tale e (before ++ notices) e' := by
  cases h with
  | kept active silent => exact .kept (active.trans hactive) (hsilent.append silent)
  | ended before' told silent wasActive active =>
    refine .ended (before ++ before') (by rw [told, List.append_assoc]) (hsilent.append silent) ?_
      active
    rw [isActive, ← hactive]
    exact wasActive
  | shown before' tree node told silent displays =>
    exact .shown (before ++ before') tree node (by rw [told, List.append_assoc])
      (hsilent.append silent) displays

/-- Ending a dialogue is told by its end, and an idle engine tells nothing. -/
theorem tale_endDialogue (e : Engine) : Tale e e.endDialogue.notices e.endDialogue.value := by
  rw [notices_endDialogue]
  rcases hactive : e.active with - | a
  · exact .kept (by rw [active_endDialogue, hactive]) silent_nil
  · exact .ended [] rfl silent_nil (by rw [isActive, hactive, Option.isSome_some])
      (active_endDialogue e)

/-- Announcing the node on screen displays it, whatever was on screen before. -/
theorem tale_announceNode (d : Engine) {tree : IndexedTree} {node : Node}
    (hactive : e.active = some ⟨tree, node.id⟩) (hfound : tree.node? node.id = some node) :
    Tale d (e.announceNode tree node).notices (e.announceNode tree node).value :=
  .shown [] tree.tree node (by rw [notices_announceNode, world_announceNode, List.nil_append])
    silent_nil ⟨tree, rfl, (active_announceNode e tree node).trans hactive, hfound⟩

/-- Entering a node is told by the node and the number of its visible choices. -/
theorem tale_enter (d : Engine) {tree : IndexedTree} {node : Node}
    (hfound : tree.node? node.id = some node) :
    Tale d (e.enter tree node).notices (e.enter tree node).value := by
  have hcommands := runCommands_eq { e with active := some ⟨tree, node.id⟩ } node.startCommands
  rw [enter]
  simp only [Told.value_bind, Told.notices_bind, Told.notices_log, List.nil_append]
  refine (tale_announceNode d ?_ hfound).prepend rfl (silent_runCommands _ _)
  rw [hcommands]

/-- Going to a node is told by that node, or by the end of the dialogue. -/
theorem tale_showNode (e : Engine) (tree : IndexedTree) (name : Option String) :
    Tale e (e.showNode tree name).notices (e.showNode tree name).value := by
  have hended := (tale_endDialogue e.cancelPendingEnd.value).prepend (e := e)
    (active_cancelPendingEnd e) silent_nil
  rw [showNode, Told.value_bind, Told.notices_bind, notices_cancelPendingEnd]
  rcases name with - | name
  · exact hended
  · dsimp only
    rcases hnode : tree.node? name with - | node
    · exact hended
    · exact tale_enter e (IndexedTree.node?_id hnode)

/-- Taking a choice is told by what it leads to. -/
theorem tale_take (e : Engine) (tree : IndexedTree) (node : Node) (choice : Choice)
    (index : Nat) :
    Tale e (e.take tree node choice index).notices (e.take tree node choice index).value := by
  -- impacts and commands leave the node on screen where it is
  have hactive : ((e.applyImpacts node choice.impacts).value.runCommands
      node.endCommands).value.active = e.active := by
    rw [runCommands_eq, applyImpacts_eq]
  rw [take]
  simp only [Told.value_bind, Told.notices_bind, Told.notices_log, notices_emit, List.nil_append]
  rw [← List.append_assoc, ← List.append_assoc]
  refine (tale_showNode _ tree choice.nextNode).prepend hactive ?_
  exact ((silent_event rfl).append (silent_applyImpacts _ _ _)).append (silent_runCommands _ _)

theorem tale_leave (e : Engine) (tree : IndexedTree) (node : Node) :
    Tale e (e.leave tree node).notices (e.leave tree node).value := by
  rw [leave]
  rcases node.autoNext with - | next
  · exact tale_endDialogue e
  · have hactive : (e.runCommands node.endCommands).value.active = e.active := by
      rw [runCommands_eq]
    rw [Told.value_bind, Told.notices_bind]
    exact (tale_showNode _ tree (some next)).prepend hactive (silent_runCommands _ _)

/-- Resuming a dialogue is told by the node it is resumed at. -/
theorem tale_resume (e : Engine) {tree : IndexedTree} {node : Node}
    (hfound : tree.node? node.id = some node) :
    Tale e (e.resume tree node).notices (e.resume tree node).value := by
  rw [resume, Told.value_bind, Told.notices_bind, notices_cancelPendingEnd]
  exact tale_announceNode e rfl hfound

/-! ### Calls -/

section Calls

variable {call : Told Notice (Except DialogueError Unit × Engine)}

/-- A call that is refused tells nothing. -/
theorem Refused.tale {err : DialogueError} (h : Refused e call err) :
    Tale e call.notices call.value.2 := by
  rw [h.value, h.notices]
  exact tale_refl e

/-- A call that is carried out tells what its phase tells. -/
theorem CarriedOut.tale {phase : Told Notice Engine} (h : CarriedOut call phase)
    (hphase : Tale e phase.notices phase.value) : Tale e call.notices call.value.2 := by
  rw [h.value, h.notices]
  exact hphase

/-- The tale of starting a dialogue at a node. -/
theorem tale_startAt (e : Engine) (tree : IndexedTree) (name : String) :
    Tale e (e.startAt tree name).notices (e.startAt tree name).value.2 := by
  rcases e.startAt_cases tree name with ⟨-, h⟩ | ⟨node, -, h⟩
  · exact h.tale
  · exact h.tale (tale_showNode e tree (some node.id))

theorem tale_start (e : Engine) (tree : IndexedTree) :
    Tale e (e.start tree).notices (e.start tree).value.2 := by
  rcases e.start_cases tree with ⟨-, h⟩ | ⟨name, -, h⟩
  · exact h.tale
  · rw [h]
    exact tale_startAt e tree name

/-- The tale of resuming a dialogue at a node. -/
theorem tale_resumeAt (e : Engine) (tree : IndexedTree) (name : String) :
    Tale e (e.resumeAt tree name).notices (e.resumeAt tree name).value.2 := by
  rcases e.resumeAt_cases tree name with ⟨-, h⟩ | ⟨node, hnode, h⟩
  · exact h.tale
  · exact h.tale (tale_resume e (IndexedTree.node?_id hnode))

/-- The tale of taking a choice. -/
theorem tale_select (e : Engine) (index : Nat) :
    Tale e (e.select index).notices (e.select index).value.2 := by
  rcases e.select_cases index with ⟨err, -, h⟩ | ⟨tree, node, -, ⟨-, h⟩ | ⟨i, choice, -, h⟩⟩
  · exact h.tale
  · exact h.tale
  · exact h.tale (tale_take e tree node choice index)

/-- The tale of going on. -/
theorem tale_advance (e : Engine) : Tale e e.advance.notices e.advance.value.2 := by
  rcases e.advance_cases with ⟨err, -, h⟩ | ⟨tree, node, -, ⟨-, h⟩ | ⟨-, h⟩⟩
  · exact h.tale
  · exact h.tale
  · exact h.tale (tale_leave e tree node)

end Calls

/-- The tale of ending a dialogue by force. -/
theorem tale_forceEnd (e : Engine) : Tale e e.forceEnd.notices e.forceEnd.value.2 := by
  rw [forceEnd]
  split
  · simpa using tale_endDialogue e
  · exact tale_refl e

/-- The tale of moving the clock: the end of the dialogue where the node on screen is closed. -/
theorem tale_update (he : e.Coherent) (elapsed : Duration) :
    Tale e (e.update elapsed).notices (e.update elapsed).value := by
  rcases update_spec he elapsed with
    ⟨-, schedule, hupdate, -⟩ | ⟨⟨hpending, -⟩, schedule, hvalue, hnotices, -⟩
  · rw [hupdate]
    exact .kept rfl silent_nil
  · rw [hvalue, hnotices]
    exact .ended [] rfl silent_nil (he.isActive_of_pending hpending) rfl

/-! ### When an end is told -/

/-- When an end is told in one tale: exactly if a dialogue was running that is not running any
more. -/
theorem Tale.ended_mem_iff {notices : List Notice} (h : Tale e notices e') :
    .ended ∈ eventsOf notices ↔ e.isActive = true ∧ e'.isActive = false := by
  cases h with
  | kept active silent =>
    rw [iff_false_left silent.ended_not_mem, isActive, isActive, active]
    rintro ⟨hactive, hidle⟩
    exact absurd (hactive.symm.trans hidle) (by decide)
  | ended before told silent wasActive active =>
    rw [told, eventsOf_append]
    exact ⟨fun _ ↦ ⟨wasActive, by rw [isActive, active, Option.isSome_none]⟩,
      fun _ ↦ List.mem_append_right _ (List.mem_singleton.mpr rfl)⟩
  | shown before tree node told silent displays =>
    obtain ⟨t, -, hactive, -⟩ := displays
    rw [told, eventsOf_append, List.mem_append, iff_false_right (by simp [isActive, hactive])]
    rintro (hended | hended)
    · exact silent.ended_not_mem hended
    · simp [eventsOf, Notice.event?] at hended

/-- An end that is told in one tale is told once, and nothing comes behind it. -/
theorem Tale.ended_last {notices : List Notice} (h : Tale e notices e')
    (hended : .ended ∈ eventsOf notices) :
    ∃ before, eventsOf notices = before ++ [.ended] ∧ .ended ∉ before := by
  cases h with
  | kept active silent => exact absurd hended silent.ended_not_mem
  | ended before told silent wasActive active =>
    exact ⟨eventsOf before, by rw [told, eventsOf_append]; rfl, silent.ended_not_mem⟩
  | shown before tree node told silent displays =>
    rw [told, eventsOf_append, List.mem_append] at hended
    rcases hended with hended | hended
    · exact absurd hended silent.ended_not_mem
    · simp [eventsOf, Notice.event?] at hended

/-! ### Nothing behind a display -/

/-- Behind a node that is displayed comes the number of the choices that are visible then, and
nothing else. -/
def DisplaysLast (notices : List Notice) (e' : Engine) : Prop :=
  ∀ before tree node after, eventsOf notices = before ++ .nodeDisplayed tree node :: after →
    after = [.choicesUpdated node (node.shown e'.world.store).length]

/-- A list that is split in front of an element is split within one of its two parts. -/
theorem append_eq_append_cons {α : Type} {l r before after : List α} {a : α}
    (h : l ++ r = before ++ a :: after) :
    (∃ rest, l = before ++ a :: rest ∧ after = rest ++ r) ∨
      ∃ rest, before = l ++ rest ∧ r = rest ++ a :: after := by
  rcases List.append_eq_append_iff.mp h with ⟨rest, hbefore, hr⟩ | ⟨rest, hl, hafter⟩
  · exact .inr ⟨rest, hbefore, hr⟩
  · rcases rest with - | ⟨b, rest⟩
    · exact .inr ⟨[], by simpa using hl.symm, by simpa using hafter.symm⟩
    · obtain ⟨rfl, htail⟩ : a = b ∧ after = rest ++ r := by simpa using hafter
      exact .inl ⟨rest, hl, htail⟩

/-- In a tale a node is displayed last, up to the number of its choices. -/
theorem Tale.displaysLast {notices : List Notice} (h : Tale e notices e') :
    DisplaysLast notices e' := by
  intro before tree node after hevents
  have hmem : .nodeDisplayed tree node ∈ eventsOf notices := by simp [hevents]
  cases h with
  | kept active silent => exact absurd hmem (silent.displayed_not_mem tree node)
  | ended before' told silent wasActive active =>
    rw [told, eventsOf_append, List.mem_append] at hmem
    rcases hmem with hmem | hmem
    · exact absurd hmem (silent.displayed_not_mem tree node)
    · simp [eventsOf, Notice.event?] at hmem
  | shown before' tree' node' told silent displays =>
    rw [told, eventsOf_append] at hevents
    -- the display is not among the events before, so it is the one that the tale ends with
    rcases append_eq_append_cons hevents with ⟨rest, hbefore, -⟩ | ⟨rest, -, hlast⟩
    · exact absurd (by simp [hbefore]) (silent.displayed_not_mem tree node)
    · rcases rest with - | ⟨first, rest⟩
      · obtain ⟨⟨-, rfl⟩, hafter⟩ : (tree' = tree ∧ node' = node) ∧
            [.choicesUpdated node' (node'.shown e'.world.store).length] = after := by
          simpa [eventsOf, Notice.event?] using hlast
        exact hafter.symm
      · rcases rest with - | ⟨second, rest⟩ <;> simp [eventsOf, Notice.event?] at hlast

/-- What was told before a display does not matter, as long as it displays no node itself. -/
theorem DisplaysLast.prepend {ms ns : List Notice} (h : DisplaysLast ns e')
    (hms : displaysNode ms = false) : DisplaysLast (ms ++ ns) e' := by
  intro before tree node after hevents
  rw [eventsOf_append] at hevents
  rcases append_eq_append_cons hevents with ⟨rest, hms', -⟩ | ⟨rest, -, hns⟩
  · exact absurd (by simp [hms']) (displayed_not_mem_of_displaysNode hms tree node)
  · exact h rest tree node after hns

/-! ### Tales one behind the other -/

/-- What an engine `e` that is now `e'` has told in several tales. -/
inductive Chronicle : Engine → List Notice → Engine → Prop where
  | nil (e : Engine) : Chronicle e [] e
  | cons {e d e' : Engine} {notices rest : List Notice} (h : Tale e notices d)
      (hrest : Chronicle d rest e') : Chronicle e (notices ++ rest) e'

/-- A tale is a chronicle. -/
theorem Tale.chronicle {notices : List Notice} (h : Tale e notices e') :
    Chronicle e notices e' := by
  have hsingle := Chronicle.cons h (.nil e')
  rwa [List.append_nil] at hsingle

/-- Chronicles are told one after the other. -/
theorem Chronicle.append {ms ns : List Notice} (h : Chronicle e ms d)
    (h' : Chronicle d ns e') : Chronicle e (ms ++ ns) e' := by
  induction h with
  | nil e => exact h'
  | cons htale hrest ih =>
    rw [List.append_assoc]
    exact .cons htale (ih h')

end Engine

namespace Snapshot

open Engine (Chronicle Tale)

variable {e : Engine}

/-- Restoring a world ends the dialogue, and then changes nothing on the screen. -/
theorem chronicle_restoreWorld (s : Snapshot) (e : Engine) :
    Chronicle e (s.restoreWorld e).notices (s.restoreWorld e).value := by
  have hended := (Engine.tale_forceEnd e).chronicle
  have hrestored : Tale e.forceEnd.value.2
      (e.forceEnd.value.2.withStore (·.restore s.store)).notices (s.restoreWorld e).value := by
    refine .kept rfl ?_
    simp only [Engine.withStore, Told.notices_bind, Engine.notices_inWorld, Told.notices_pure,
      List.append_nil]
    exact silent_map_change _
  have hnotices : (s.restoreWorld e).notices =
      e.forceEnd.notices ++ (e.forceEnd.value.2.withStore (·.restore s.store)).notices := by
    simp [restoreWorld]
  rw [hnotices]
  exact hended.append hrestored.chronicle

/-- The chronicle of putting back a snapshot: the dialogue that ran ends, and another one may be
resumed. -/
theorem chronicle_apply (s : Snapshot) (e : Engine) (tree : Option IndexedTree) :
    Chronicle e (s.apply e tree).notices (s.apply e tree).value.2 := by
  have hrestored := s.chronicle_restoreWorld e
  rcases hposition : s.position tree with err | - | ⟨t, name⟩
  · rw [apply_of_position_error hposition]
    exact .nil e
  · obtain ⟨hvalue, hnotices⟩ := apply_of_no_position hposition e
    rw [hvalue, hnotices]
    exact hrestored
  · obtain ⟨hvalue, hnotices⟩ := apply_of_position hposition e
    rw [hvalue, hnotices]
    exact hrestored.append (Engine.tale_resumeAt _ t name).chronicle

/-- Putting back a snapshot displays its node last. -/
theorem displaysLast_apply (he : e.Coherent) (s : Snapshot) (tree : Option IndexedTree) :
    Engine.DisplaysLast (s.apply e tree).notices (s.apply e tree).value.2 := by
  have hsilent : displaysNode (s.restoreWorld e).notices = false := by
    rw [notices_restoreWorld he, displaysNode_append, displaysNode_map_change]
    split <;> rfl
  have hrestored : Engine.DisplaysLast (s.restoreWorld e).notices (s.restoreWorld e).value := by
    intro before t node after hevents
    exact absurd (by simp [hevents]) (displayed_not_mem_of_displaysNode hsilent t node)
  rcases hposition : s.position tree with err | - | ⟨t, name⟩
  · rw [apply_of_position_error hposition]
    exact (Engine.tale_refl e).displaysLast
  · obtain ⟨hvalue, hnotices⟩ := apply_of_no_position hposition e
    rw [hvalue, hnotices]
    exact hrestored
  · obtain ⟨hvalue, hnotices⟩ := apply_of_position hposition e
    rw [hvalue, hnotices]
    exact (Engine.tale_resumeAt _ t name).displaysLast.prepend hsilent

end Snapshot

end Storyline
