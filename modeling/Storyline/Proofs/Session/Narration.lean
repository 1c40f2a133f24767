import Mathlib.Data.List.Chain
import Storyline.Audience
import Storyline.Proofs.Dialogue.Tale
import Storyline.Proofs.Session.Run

/-!
# What a listener knows of a session

A listener of the dialogue that is present from the beginning hears every event of a session
(`Session.events`), and from these alone it knows what is on screen. The last event that says
something of the screen decides (`lastScreen`); that it agrees with the engine is kept by every
tale (`Followed.tale`), so it holds after every operation (`Session.followed`).

`Session.events_tell` puts together what the events of a session tell: whether a dialogue is
running and which node it shows, how many choices there are, and when a dialogue is over.
-/

namespace Storyline

/-! ### Hearing -/

/-- The event that is heard, where one is. -/
def Heard.event? {τ : Type} : Heard τ → Option Event
  | .record _ => none
  | .change _ _ => none
  | .event _ e => some e

/-- An audience of one listener of the dialogue, which is there from the beginning. -/
def loneListener : Audience Unit where
  dialogue := (Registry.subscribe {} ()).2

/-- The events among signals, as the lone listener hears them. -/
def heardEvents (signals : List (Signal Notice)) : List Event :=
  (loneListener.hear signals).filterMap Heard.event?

/-- The listener hears each event that is announced, once and in order. -/
theorem heardEvents_signals {β : Type} (x : Told Notice β) :
    heardEvents x.signals = eventsOf x.notices := by
  rw [heardEvents, eventsOf, Told.notices, Audience.hear, List.filterMap_flatMap,
    List.filterMap_filterMap]
  induction x.signals with
  | nil => rfl
  | cons s ss ih =>
    rw [List.flatMap_cons, List.filterMap_cons, ih]
    rcases s with r | c | event <;> rfl

/-! ### The screen as the events tell it -/

/-- The events that say what is on screen. -/
def screens (events : List Event) : List Event := events.filter Event.isScreen

/-- What the events so far say of the screen. -/
def lastScreen (events : List Event) : Option Event := (screens events).getLast?

theorem screens_append (ds es : List Event) : screens (ds ++ es) = screens ds ++ screens es :=
  List.filter_append ds es

/-- Silent notices say nothing of the screen. -/
theorem Silent.screens_eq {notices : List Notice} (h : Silent notices) :
    screens (eventsOf notices) = [] := by
  rw [screens, List.filter_eq_nil_iff]
  intro event hevent
  rw [h event hevent]
  exact Bool.false_ne_true

/-- The screen as the events so far tell it is the screen of the engine. -/
structure Followed (events : List Event) (e : Engine) : Prop where
  /-- The node that was displayed last is on screen. -/
  shown : ∀ tree node, lastScreen events = some (.nodeDisplayed tree node) → e.Displays tree node
  /-- If no node was displayed since the last end, none is on screen. -/
  idle : (∀ tree node, lastScreen events ≠ some (.nodeDisplayed tree node)) → e.active = none
  /-- Of two events in a row that say what is on screen, one is no end. -/
  alternates : (screens events).IsChain fun d d' ↦ d ≠ .ended ∨ d' ≠ .ended

namespace Followed

variable {events : List Event} {e d : Engine}

/-- Notices that say nothing of the screen leave it as the events told it. -/
theorem silent (h : Followed events e) {notices : List Notice} (hsilent : Silent notices)
    (hactive : d.active = e.active) : Followed (events ++ eventsOf notices) d := by
  have hscreens : screens (events ++ eventsOf notices) = screens events := by
    rw [screens_append, hsilent.screens_eq, List.append_nil]
  refine ⟨fun tree node hlast ↦ ?_, fun hlast ↦ ?_, by rw [hscreens]; exact h.alternates⟩
  · rw [lastScreen, hscreens] at hlast
    obtain ⟨t, htree, hshown, hfound⟩ := h.shown tree node hlast
    exact ⟨t, htree, hactive.trans hshown, hfound⟩
  · rw [lastScreen, hscreens] at hlast
    exact hactive.trans (h.idle hlast)

/-- An end behind a node that is on screen. -/
theorem ended (h : Followed events e) {notices : List Notice} (hsilent : Silent notices)
    (hactive : e.isActive = true) (hidle : d.active = none) :
    Followed (events ++ eventsOf (notices ++ [.event .ended])) d := by
  have hscreens : screens (events ++ eventsOf (notices ++ [.event .ended])) =
      screens events ++ [.ended] := by
    rw [eventsOf_append, screens_append, screens_append, hsilent.screens_eq]
    rfl
  refine ⟨fun tree node hlast ↦ ?_, fun _ ↦ hidle, ?_⟩
  · rw [lastScreen, hscreens, List.getLast?_concat] at hlast
    cases hlast
  · -- were the event before an end too, no dialogue would be running
    rw [hscreens, List.isChain_append]
    refine ⟨h.alternates, .singleton _, fun last hlast event _ ↦ .inl ?_⟩
    rintro rfl
    have hnone : e.active = none := by
      refine h.idle fun tree node hshown ↦ ?_
      cases hshown.symm.trans hlast
    rw [Engine.isActive, hnone] at hactive
    cases hactive

/-- A node that is displayed. -/
theorem displayed (h : Followed events e) {notices : List Notice} (hsilent : Silent notices)
    {tree : Tree} {node : Node} (hshown : d.Displays tree node) (visible : Nat) :
    Followed (events ++ eventsOf (notices ++ [.event (.nodeDisplayed tree node),
      .event (.choicesUpdated node visible)])) d := by
  have hscreens : screens (events ++ eventsOf (notices ++ [.event (.nodeDisplayed tree node),
      .event (.choicesUpdated node visible)])) = screens events ++ [.nodeDisplayed tree node] := by
    rw [eventsOf_append, screens_append, screens_append, hsilent.screens_eq]
    rfl
  refine ⟨fun tree' node' hlast ↦ ?_, fun hlast ↦ ?_, ?_⟩
  · rw [lastScreen, hscreens, List.getLast?_concat] at hlast
    obtain ⟨rfl, rfl⟩ := Event.nodeDisplayed.inj (Option.some.inj hlast)
    exact hshown
  · rw [lastScreen, hscreens, List.getLast?_concat] at hlast
    exact absurd rfl (hlast tree node)
  · rw [hscreens, List.isChain_append]
    refine ⟨h.alternates, .singleton _, fun _ _ event hevent ↦ .inr ?_⟩
    rw [← Option.some.inj hevent]
    exact Event.noConfusion

/-- A tale keeps the events in agreement with the screen. -/
theorem tale (h : Followed events e) {notices : List Notice} (htale : e.Tale notices d) :
    Followed (events ++ eventsOf notices) d := by
  cases htale with
  | kept active silent => exact h.silent silent active
  | ended before told silent wasActive active =>
    rw [told]
    exact h.ended silent wasActive active
  | shown before tree node told silent displays =>
    rw [told]
    exact h.displayed silent displays _

theorem chronicle (h : Followed events e) {notices : List Notice}
    (hchronicle : e.Chronicle notices d) : Followed (events ++ eventsOf notices) d := by
  induction hchronicle generalizing events with
  | nil e => exact h.silent silent_nil rfl
  | cons htale hrest ih =>
    rw [eventsOf_append, ← List.append_assoc]
    exact ih (h.tale htale)

/-- Between two ends a node is displayed. -/
theorem exists_displayed_between (h : Followed events e) {before between after : List Event}
    (hevents : events = before ++ .ended :: (between ++ .ended :: after)) :
    ∃ tree node, .nodeDisplayed tree node ∈ between := by
  have hscreens : screens events =
      screens before ++ .ended :: (screens between ++ .ended :: screens after) := by
    rw [hevents, screens_append, screens, screens, List.filter_cons_of_pos rfl,
      List.filter_append, List.filter_cons_of_pos rfl]
    rfl
  have hchain := h.alternates
  rw [hscreens] at hchain
  have hchain := hchain.right_of_append
  -- the event behind the first end is no end, so it is the display of a node
  rcases hbetween : screens between with - | ⟨event, rest⟩
  · rw [hbetween, List.nil_append, List.isChain_cons_cons] at hchain
    simp at hchain
  · rw [hbetween, List.cons_append, List.isChain_cons_cons] at hchain
    have hmem : event ∈ screens between := by simp [hbetween]
    obtain ⟨hmem, hscreen⟩ := List.mem_filter.mp hmem
    cases event with
    | nodeDisplayed tree node => exact ⟨tree, node, hmem⟩
    | ended => simp at hchain
    | choicesUpdated | choiceSelected | impactApplied | itemGiven => cases hscreen

end Followed

/-! ### Operations and runs -/

/-- Whether an operation puts a snapshot back. -/
def Operation.isApply : Operation → Bool
  | .apply _ _ => true
  | _ => false

namespace Engine

variable {e : Engine}

/-- Every operation tells one tale, except for a snapshot that is put back. -/
theorem tale_perform (he : e.Coherent) {op : Operation} (hop : op.isApply = false) :
    Tale e (e.perform op).notices (e.perform op).value.2 := by
  cases op with
  | start tree => simpa [perform] using tale_start e tree
  | startAt tree node => simpa [perform] using tale_startAt e tree node
  | resumeAt tree node => simpa [perform] using tale_resumeAt e tree node
  | select index => simpa [perform] using tale_select e index
  | advance => simpa [perform] using tale_advance e
  | forceEnd => simpa [perform] using tale_forceEnd e
  | update elapsed => simpa [perform] using tale_update he elapsed
  -- what remains leaves the dialogue alone
  | write w =>
    refine .kept rfl ?_
    simpa [perform, withStore] using silent_map_change _
  | addItem item =>
    refine .kept rfl ?_
    rw [perform, Inventory.add]
    split <;> exact silent_nil
  | removeItem item => exact .kept rfl silent_nil
  | run command =>
    refine .kept rfl ?_
    simpa [perform] using silent_map_change _
  | apply s tree => cases hop

/-- What an operation tells is a chronicle. -/
theorem chronicle_perform (he : e.Coherent) (op : Operation) :
    Chronicle e (e.perform op).notices (e.perform op).value.2 := by
  rcases hop : op.isApply with - | -
  · exact (tale_perform he hop).chronicle
  · cases op with
    | apply s tree =>
      obtain ⟨hvalue, hnotices⟩ := e.perform_apply s tree
      rw [hvalue, hnotices]
      exact s.chronicle_apply e tree
    | _ => cases hop

theorem chronicle_performAll (he : e.Coherent) (ops : List Operation) :
    Chronicle e (e.performAll ops).notices (e.after ops) := by
  induction ops generalizing e with
  | nil => exact .nil e
  | cons op ops ih =>
    rw [notices_performAll_cons, after_cons]
    exact (chronicle_perform he op).append (ih (coherent_perform he op))

/-- An operation displays its node last. -/
theorem displaysLast_perform (he : e.Coherent) (op : Operation) :
    DisplaysLast (e.perform op).notices (e.perform op).value.2 := by
  rcases hop : op.isApply with - | -
  · exact (tale_perform he hop).displaysLast
  · cases op with
    | apply s tree =>
      obtain ⟨hvalue, hnotices⟩ := e.perform_apply s tree
      rw [hvalue, hnotices]
      exact Snapshot.displaysLast_apply he s tree
    | _ => cases hop

/-- The operation of a run by which a node was displayed: what was announced before it came
before, and behind the node came the number of its choices in the store that the operation
left. -/
theorem exists_displaying_operation (he : e.Coherent) {ops : List Operation}
    {before after : List Event} {tree : Tree} {node : Node}
    (h : eventsOf (e.performAll ops).notices = before ++ .nodeDisplayed tree node :: after) :
    ∃ done op since, ops = done ++ op :: since ∧
      eventsOf (e.performAll done).notices <+: before ∧
      after = .choicesUpdated node (node.shown (e.after (done ++ [op])).world.store).length ::
        eventsOf ((e.after (done ++ [op])).performAll since).notices := by
  induction ops generalizing e before with
  | nil =>
    rw [notices_performAll_nil] at h
    cases before <;> cases h
  | cons op ops ih =>
    rw [notices_performAll_cons, eventsOf_append] at h
    rcases append_eq_append_cons h with ⟨rest, hop, hafter⟩ | ⟨rest, hbefore, hops⟩
    · have hrest := displaysLast_perform he op before tree node rest hop
      exact ⟨[], op, ops, rfl, List.nil_prefix, by rw [hafter, hrest]; rfl⟩
    · obtain ⟨done, op', since, hsplit, hdone, hafter⟩ := ih (coherent_perform he op) hops
      refine ⟨op :: done, op', since, by rw [hsplit, List.cons_append], ?_, hafter⟩
      rw [hbefore, notices_performAll_cons, eventsOf_append]
      exact (List.prefix_append_right_inj _).mpr hdone

end Engine

/-! ### Sessions -/

namespace Session

variable (x : Session)

/-- What the listener has heard of a session. -/
def events : List Event := heardEvents (x.start.performAll x.ops).signals

/-- The lone listener hears the events among the notices. -/
theorem events_eq : x.events = eventsOf (x.start.performAll x.ops).notices :=
  heardEvents_signals _

/-- After every operation of a session the listener knows the screen. -/
theorem followed : Followed x.events x.engine := by
  have hstart : Followed [] x.start := ⟨(fun tree node h ↦ by cases h), fun _ ↦ rfl, .nil⟩
  rw [events_eq]
  exact hstart.chronicle (Engine.chronicle_performAll x.coherent_start x.ops)

/-- A dialogue is running exactly if the listener knows of a node on screen. -/
theorem isActive_iff_lastScreen :
    x.engine.isActive = true ↔
      ∃ tree node, lastScreen x.events = some (.nodeDisplayed tree node) := by
  constructor
  · intro hactive
    by_contra hnone
    have hidle := x.followed.idle fun tree node hlast ↦ hnone ⟨tree, node, hlast⟩
    rw [Engine.isActive, hidle] at hactive
    cases hactive
  · rintro ⟨tree, node, hlast⟩
    obtain ⟨t, -, hactive, -⟩ := x.followed.shown tree node hlast
    rw [Engine.isActive, hactive, Option.isSome_some]

/-- What a listener knows from the events of a session alone.

A dialogue is running exactly if of the displays and ends so far the last is a display, and its
tree and its node are then those on screen. Right behind each display comes the number of the
choices that are visible when it is made. Between two ends there is a display. And an operation
other than putting a snapshot back announces an end exactly if it takes the engine from a running
dialogue to none, once and behind everything else. -/
theorem events_tell :
    ((x.engine.isActive = true ↔
        ∃ tree node, lastScreen x.events = some (.nodeDisplayed tree node)) ∧
      ∀ tree node, lastScreen x.events = some (.nodeDisplayed tree node) →
        x.engine.currentTree?.map (·.tree) = some tree ∧ x.engine.currentNode? = some node) ∧
    (∀ before tree node after, x.events = before ++ .nodeDisplayed tree node :: after →
      ∃ done op since, x.ops = done ++ op :: since ∧
        heardEvents (x.start.performAll done).signals <+: before ∧
        after =
          .choicesUpdated node (node.shown (x.start.after (done ++ [op])).world.store).length ::
            heardEvents ((x.start.after (done ++ [op])).performAll since).signals) ∧
    (∀ before between after, x.events = before ++ .ended :: (between ++ .ended :: after) →
      ∃ tree node, .nodeDisplayed tree node ∈ between) ∧
    ∀ op : Operation, op.isApply = false →
      (.ended ∈ heardEvents (x.engine.perform op).signals ↔
          x.engine.isActive = true ∧ (x.engine.perform op).value.2.isActive = false) ∧
        (.ended ∈ heardEvents (x.engine.perform op).signals →
          ∃ before, heardEvents (x.engine.perform op).signals = before ++ [.ended] ∧
            .ended ∉ before) := by
  refine ⟨⟨x.isActive_iff_lastScreen, fun tree node hlast ↦ ?_⟩,
    fun before tree node after hevents ↦ ?_,
    fun before between after hevents ↦ x.followed.exists_displayed_between hevents,
    fun op hop ↦ ?_⟩
  · obtain ⟨t, htree, hactive, hfound⟩ := x.followed.shown tree node hlast
    rw [Engine.currentTree?, Engine.currentNode?, hactive, ← htree]
    exact ⟨rfl, hfound⟩
  · rw [events_eq] at hevents
    simp only [heardEvents_signals]
    exact Engine.exists_displaying_operation x.coherent_start hevents
  · have htale := Engine.tale_perform x.coherent hop
    rw [heardEvents_signals]
    exact ⟨htale.ended_mem_iff, htale.ended_last⟩

/-- The door closes by itself and is shown anew. -/
def doorAgain : Session where
  ops := [.start doorTree, .update (.ofNanos (3 * Duration.perSecond)), .start doorTree]

/-- In the end the dialogue of the door is ended by force. -/
theorem events_tell_door :
    doorAgain.engine.currentNode? = some doorNode ∧
      (∃ done op since, doorAgain.ops = done ++ op :: since ∧
        heardEvents (doorAgain.start.performAll done).signals <+:
          [.nodeDisplayed doorTree.tree doorNode, .choicesUpdated doorNode 0, .ended] ∧
        [Event.choicesUpdated doorNode 0] =
          .choicesUpdated doorNode
              (doorNode.shown (doorAgain.start.after (done ++ [op])).world.store).length ::
            heardEvents ((doorAgain.start.after (done ++ [op])).performAll since).signals) ∧
      (∃ tree node, .nodeDisplayed tree node ∈
        [Event.nodeDisplayed doorTree.tree doorNode, .choicesUpdated doorNode 0]) ∧
      ∃ before, heardEvents (doorAgain.engine.perform .forceEnd).signals = before ++ [.ended] ∧
        .ended ∉ before := by
  have hevents : doorAgain.events =
      [.nodeDisplayed doorTree.tree doorNode, .choicesUpdated doorNode 0, .ended] ++
        .nodeDisplayed doorTree.tree doorNode :: [.choicesUpdated doorNode 0] := by
    decide +kernel
  have hends : events { ops := doorAgain.ops ++ [.forceEnd] } =
      [.nodeDisplayed doorTree.tree doorNode, .choicesUpdated doorNode 0] ++ .ended ::
        ([.nodeDisplayed doorTree.tree doorNode, .choicesUpdated doorNode 0] ++ .ended :: []) := by
    decide +kernel
  have hended : .ended ∈ heardEvents (doorAgain.engine.perform .forceEnd).signals := by
    decide +kernel
  obtain ⟨⟨-, hscreen⟩, hdisplay, -, hend⟩ := doorAgain.events_tell
  obtain ⟨-, -, hbetween, -⟩ := events_tell { ops := doorAgain.ops ++ [.forceEnd] }
  exact ⟨(hscreen doorTree.tree doorNode (by rw [hevents]; rfl)).2, hdisplay _ _ _ _ hevents,
    hbetween _ _ _ hends, (hend .forceEnd rfl).2 hended⟩

end Session

end Storyline
