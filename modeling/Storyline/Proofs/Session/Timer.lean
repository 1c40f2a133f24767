import Storyline.Proofs.Session.Run

/-!
# The timer of a session

An end node without visible choices closes itself after a while, and so does a node that leads
nowhere. The closing is armed when the node is shown. In every state that a session reaches at
most one closing waits, and it is that of the node on screen (`Session.timer_agrees`).

The timer is set by what the store says when the node is shown, and it is not set again when the
host writes to the store. As long as the host does not, a closing waits exactly if the node on
screen closes itself (`Session.pendingAutoEnd_iff`). When the host does, a node may have gained a
visible choice, and is closed all the same (`Session.update_ends_choice_iff`).
-/

namespace Storyline

namespace Engine

variable {e : Engine}

/-! ### What the invariant says of the timer -/

/-- The timer of an engine and its dialogue agree. -/
structure Timely (e : Engine) : Prop where
  /-- At most one closing waits. -/
  size_le : e.schedule.size ≤ 1
  /-- One waits exactly if the engine says so. -/
  size_eq_iff : e.schedule.size = 1 ↔ e.pendingAutoEnd = true
  /-- It is the closing of the node on screen. -/
  task : ∀ entry ∈ e.schedule.live,
    e.isActive = true ∧ ∃ node, e.currentNode? = some node ∧ entry.2.task = node.id
  /-- Without a dialogue none waits. -/
  idle : e.isActive = false → e.schedule.live = []

/-- The node on screen is the one that is found under its name. -/
theorem Coherent.exists_currentNode (he : e.Coherent) {a : ActiveNode} (ha : e.active = some a) :
    ∃ node, e.currentNode? = some node ∧ node.id = a.nodeId := by
  obtain ⟨node, hnode, hid⟩ := he.active a ha
  exact ⟨node, by rw [currentNode?, ha, Option.bind_some, hnode], hid⟩

/-- The timer of a coherent engine agrees with its dialogue. -/
theorem Coherent.timely (he : e.Coherent) : e.Timely := by
  rcases he.timer with hstill | ⟨a, ha, harmed⟩
  · have hauto := pendingAutoEnd_of_still hstill
    constructor
    · simp [Schedule.size, hstill.2]
    · simp [Schedule.size, hstill.2, hauto]
    · simp [hstill.2]
    · exact fun _ ↦ hstill.2
  · have hactive : e.isActive = true := by rw [isActive, ha, Option.isSome_some]
    obtain ⟨-, -, -, -, hauto, -⟩ := harmed.pending
    obtain ⟨handle, t, -, hlive, htask⟩ := harmed
    obtain ⟨node, hnode, hid⟩ := he.exists_currentNode ha
    constructor
    · simp [Schedule.size, hlive]
    · simp [Schedule.size, hlive, hauto]
    · intro entry hentry
      rw [hlive, List.mem_singleton] at hentry
      exact ⟨hactive, node, hnode, by rw [hentry, htask, hid]⟩
    · simp [hactive]

/-- The node that is shown is the current one. -/
theorem Shows.currentNode? {tree : IndexedTree} {node : Node} (h : e.Shows tree node) :
    e.currentNode? = some node := by
  rw [Engine.currentNode?, h.active, Option.bind_some, h.found]

/-- A closing waits for a node that has just been shown exactly if it closes itself. -/
theorem Shows.pendingAutoEnd_iff {tree : IndexedTree} {node : Node} (h : e.Shows tree node) :
    e.pendingAutoEnd = true ↔ node.closes e.world.store := by
  by_cases hcloses : node.closes e.world.store
  · obtain ⟨-, -, -, -, hauto, -⟩ := (h.armed hcloses).pending
    simp [hauto, hcloses]
  · simp [pendingAutoEnd_of_still (h.still hcloses), hcloses]

/-- Once a dialogue went on, a closing waits exactly if the node on screen closes itself. -/
theorem Moved.pendingAutoEnd_iff {notices : List Notice} (h : Moved notices e) :
    e.pendingAutoEnd = true ↔
      ∃ node, e.currentNode? = some node ∧ node.closes e.world.store := by
  cases h with
  | ended active still =>
    simp [pendingAutoEnd_of_still still, Engine.currentNode?, active]
  | shown tree node shows _ => simp [shows.pendingAutoEnd_iff, shows.currentNode?]

/-! ### What the passing of time ends -/

/-- The passing of time ends a dialogue exactly if its closing waits and no more time is left of
it. -/
theorem update_ends_iff (he : e.Coherent) (elapsed : Duration) :
    e.isActive = true ∧ (e.update elapsed).value.isActive = false ↔
      e.pendingAutoEnd = true ∧ e.timeToEnd ≤ elapsed := by
  rcases update_spec he elapsed with ⟨hdue, schedule, hupdate, -⟩ | ⟨hdue, schedule, hvalue, -⟩
  · rw [iff_false_right hdue, hupdate]
    rintro ⟨hactive, hended⟩
    exact absurd (hactive.symm.trans hended) (by decide)
  · rw [hvalue]
    exact ⟨fun _ ↦ hdue, fun _ ↦ ⟨he.isActive_of_pending hdue.1, rfl⟩⟩

theorem pendingAutoEnd_congr {d : Engine} (hpending : d.pendingEnd = e.pendingEnd)
    (hlive : d.schedule.live = e.schedule.live) : d.pendingAutoEnd = e.pendingAutoEnd := by
  rw [pendingAutoEnd, pendingAutoEnd, hpending]
  rcases e.pendingEnd with - | handle
  · rfl
  · simp only [Option.any_some, Schedule.isPending, Schedule.find?, hlive]

/-- As long as a node stays on screen, its closing waits or not according to the store in which it
was shown. -/
theorem LastDisplay.pendingAutoEnd_iff {ops before since : List Operation} {op : Operation}
    (h : e.LastDisplay ops before op since) (he : e.Coherent)
    (hactive : (e.after ops).isActive = true) :
    ∃ node, (e.after ops).currentNode? = some node ∧
      ((e.after ops).pendingAutoEnd = true ↔
        node.closes (e.after (before ++ [op])).world.store) := by
  have hops : e.after ops = (e.after (before ++ [op])).after since := by
    rw [h.ops_eq, ← after_append, List.append_assoc, List.singleton_append]
  have hshown := moved_of_displays (he.after before) h.displays
  rw [← after_nil ((e.after before).perform op).value.2, ← after_cons, ← after_append] at hshown
  rw [hops] at hactive ⊢
  -- the node shown by `op` is on screen still, and its timer has not been touched
  rcases silent_run (he.after (before ++ [op])) h.silent with
    hidle | ⟨hsame, hpending, hlive⟩
  · simp [isActive, hidle] at hactive
  · cases hshown with
    | ended active => simp [isActive, hsame, active] at hactive
    | shown tree node shows =>
      refine ⟨node, ?_, ?_⟩
      · rw [currentNode?, hsame]
        exact shows.currentNode?
      · rw [← shows.pendingAutoEnd_iff, pendingAutoEnd_congr hpending hlive]

/-- A dialogue runs if it has a current node. -/
theorem isActive_of_currentNode? {node : Node} (h : e.currentNode? = some node) :
    e.isActive = true := by
  obtain ⟨a, ha, -⟩ := Option.bind_eq_some_iff.mp h
  rw [isActive, ha, Option.isSome_some]

end Engine

/-! ### Along a session -/

namespace Session

variable (x : Session)

/-- If the host has not written to the store since a node was displayed, a closing waits exactly
if the node on screen closes itself. -/
theorem pendingAutoEnd_iff {before quiet : List Operation} {op : Operation}
    (hops : x.ops = before ++ op :: quiet)
    (hdisplays : displaysNode ((x.start.after before).perform op).notices = true)
    (hquiet : ∀ q ∈ quiet, q.isHostWrite = false) :
    x.engine.pendingAutoEnd = true ↔
      ∃ node, x.engine.currentNode? = some node ∧ node.closes x.engine.world.store := by
  have hbefore := x.coherent_start.after before
  rw [engine, hops, Engine.after_append, Engine.after_cons]
  exact ((Engine.moved_of_displays hbefore hdisplays).after (Engine.coherent_perform hbefore op)
    hquiet).pendingAutoEnd_iff

/-- In every state that a session reaches, the timer agrees with the dialogue; and unless the host
wrote to the store since a node was displayed, a closing waits exactly if the node on screen
closes itself. -/
theorem timer_agrees :
    x.engine.Timely ∧
      ∀ (before : List Operation) (op : Operation) (quiet : List Operation),
        x.ops = before ++ op :: quiet →
        displaysNode ((x.start.after before).perform op).notices = true →
        (∀ q ∈ quiet, q.isHostWrite = false) →
        (x.engine.pendingAutoEnd = true ↔
          ∃ node, x.engine.currentNode? = some node ∧ node.closes x.engine.world.store) :=
  ⟨x.coherent.timely, fun _ _ _ hops hdisplays hquiet ↦ x.pendingAutoEnd_iff hops hdisplays hquiet⟩

/-- The door is shown, an item is granted, and a second passes. -/
theorem timer_agrees_door :
    displaysNode ((start {}).perform (.start doorTree)).notices = true ∧
      (engine { ops := [.start doorTree, .addItem "lamp", .update second] }).Timely ∧
      ((engine { ops := [.start doorTree, .addItem "lamp", .update second] }).pendingAutoEnd =
          true ↔
        ∃ node,
          (engine { ops := [.start doorTree, .addItem "lamp", .update second] }).currentNode? =
            some node ∧
          node.closes
            (engine
              { ops := [.start doorTree, .addItem "lamp", .update second] }).world.store) := by
  have hdisplays : displaysNode ((start {}).perform (.start doorTree)).notices = true := by
    decide +kernel
  obtain ⟨htimely, hiff⟩ :=
    timer_agrees { ops := [.start doorTree, .addItem "lamp", .update second] }
  exact ⟨hdisplays, htimely, hiff [] (.start doorTree) [.addItem "lamp", .update second] rfl
    hdisplays (by decide)⟩

/-- When the passing of time ends a dialogue in which the player can choose: there was no visible
choice when the node was last displayed, so its closing was armed; since then the host wrote to
the store; and no more time is left. -/
theorem update_ends_choice_iff (elapsed : Duration) :
    ((∃ node, x.engine.currentNode? = some node ∧ node.shown x.engine.world.store ≠ []) ∧
        (x.engine.update elapsed).value.isActive = false) ↔
      x.engine.timeToEnd ≤ elapsed ∧
        ∃ before op since node, x.start.LastDisplay x.ops before op since ∧
          (∃ w ∈ since, w.isHostWrite = true) ∧ x.engine.currentNode? = some node ∧
          node.closes (x.start.after (before ++ [op])).world.store ∧
          node.shown x.engine.world.store ≠ [] := by
  constructor
  · rintro ⟨⟨node, hnode, hchoice⟩, hended⟩
    have hactive := Engine.isActive_of_currentNode? hnode
    obtain ⟨hauto, htime⟩ := (Engine.update_ends_iff x.coherent elapsed).mp ⟨hactive, hended⟩
    obtain ⟨before, op, since, hlast⟩ := x.exists_lastDisplay hactive
    obtain ⟨node', hnode', hcloses⟩ := hlast.pendingAutoEnd_iff x.coherent_start hactive
    obtain rfl : node' = node := Option.some.inj (hnode'.symm.trans hnode)
    refine ⟨htime, before, op, since, node', hlast, ?_, hnode, hcloses.mp hauto, hchoice⟩
    by_cases hwrites : ∃ w ∈ since, w.isHostWrite = true
    · exact hwrites
    · -- a node that has a visible choice without a write had it when it was displayed
      have hquiet : ∀ q ∈ since, q.isHostWrite = false := fun q hq ↦
        eq_false_of_ne_true fun hwrite ↦ hwrites ⟨q, hq, hwrite⟩
      obtain ⟨n, hn, hclosesNow⟩ :=
        (x.pendingAutoEnd_iff hlast.ops_eq hlast.displays hquiet).mp hauto
      obtain rfl : n = node' := Option.some.inj (hn.symm.trans hnode)
      exact absurd hclosesNow.1 hchoice
  · rintro ⟨htime, before, op, since, node, hlast, -, hnode, hcloses, hchoice⟩
    obtain ⟨node', hnode', hauto⟩ :=
      hlast.pendingAutoEnd_iff x.coherent_start (Engine.isActive_of_currentNode? hnode)
    obtain rfl : node' = node := Option.some.inj (hnode'.symm.trans hnode)
    exact ⟨⟨node', hnode, hchoice⟩,
      ((Engine.update_ends_iff x.coherent elapsed).mpr ⟨hauto.mpr hcloses, htime⟩).2⟩

/-- A dialogue may be ended by the passing of time while the player can choose: the host opens the
door that was shut when it was shown. -/
theorem not_waits_for_choice :
    ¬ ∀ (x : Session) (elapsed : Duration),
      (∃ node, x.engine.currentNode? = some node ∧ node.shown x.engine.world.store ≠ []) →
        (x.engine.update elapsed).value.isActive = true := by
  intro h
  have hnode : (engine { ops := [.start doorTree, .write (.setBool "open" true)] }).currentNode? =
      some doorNode := by
    decide +kernel
  have hchoice : doorNode.shown
      (engine { ops := [.start doorTree, .write (.setBool "open" true)] }).world.store ≠ [] := by
    decide +kernel
  have hended : ((engine { ops := [.start doorTree, .write (.setBool "open" true)] }).update
      (.ofNanos (3 * Duration.perSecond))).value.isActive = false := by
    decide +kernel
  rw [h _ _ ⟨doorNode, hnode, hchoice⟩] at hended
  cases hended

end Session

end Storyline
