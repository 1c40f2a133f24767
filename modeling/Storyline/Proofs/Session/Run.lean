import Storyline.Operation
import Storyline.Proofs.Saved.Restore

/-!
# Runs of an engine

A session is a run of operations from a new engine. What one operation does is said once
(`Engine.outcome_perform` for the dialogue and its timer, `Engine.writes_perform` for the store);
along a run this gives that the parts of the engine agree (`Session.coherent`) and that its store
keeps what it started from (`Session.from_seeds`).

A run in which a node is displayed has a last operation that displays one
(`Engine.exists_last_display`). From there on the dialogue stays where it is or ends
(`Engine.silent_run`).
-/

namespace Storyline

/-- Whether the host writes to the store by an operation. Putting a snapshot back is none of
these: what it restores is there before its node is shown. -/
def Operation.isHostWrite : Operation → Bool
  | .write _ => true
  | .run command =>
    match Command.parse command with
    | .error _ | .ok (.giveItem _) => false
    | .ok _ => true
  | _ => false

/-- A command by which nothing is written leaves the store as it is. -/
theorem World.store_run (w : World) {raw : String}
    (h : (Operation.run raw).isHostWrite = false) : (w.run raw).value.2.store = w.store := by
  rw [Operation.isHostWrite] at h
  rw [run]
  split at h
  · rename_i hparse
    rw [hparse]
    rfl
  · rename_i hparse
    rw [hparse]
    rfl
  · cases h

namespace Engine

variable {e : Engine}

/-! ### One operation -/

/-- As an operation, putting a snapshot back does what it does in itself. -/
theorem perform_apply (e : Engine) (s : Snapshot) (tree : Option IndexedTree) :
    (e.perform (.apply s tree)).value.2 = (s.apply e tree).value.2 ∧
      (e.perform (.apply s tree)).notices = (s.apply e tree).notices := by
  rw [perform, Told.value_bind, Told.notices_bind]
  rcases (s.apply e tree).value with ⟨err | -, after⟩
  · exact ⟨rfl, List.append_nil _⟩
  · exact ⟨rfl, List.append_nil _⟩

/-- What becomes of an operation. A write of the host is the only one that may change the store
under a running dialogue. -/
theorem outcome_perform (he : e.Coherent) (op : Operation) :
    Outcome op.isHostWrite e (e.perform op).notices (e.perform op).value.2 ∧
      (e.perform op).value.2.schedule.Sound := by
  have hs := he.schedule
  have ht := he.timed
  cases op with
  | start tree => simpa [perform] using outcome_start _ hs ht tree
  | startAt tree node => simpa [perform] using outcome_startAt _ hs ht tree node
  | resumeAt tree node => simpa [perform] using outcome_resumeAt _ hs ht tree node
  | select index => simpa [perform] using outcome_select _ hs ht index
  | advance => simpa [perform] using outcome_advance _ hs ht
  | forceEnd => simpa [perform] using outcome_forceEnd _ hs ht
  | update elapsed => simpa [perform] using outcome_update _ he elapsed
  -- what remains leaves the dialogue alone, except for a snapshot that is put back
  | write w =>
    refine ⟨.kept rfl rfl rfl (fun h ↦ by cases h) ?_, hs⟩
    simp [perform, withStore]
  | addItem item =>
    refine ⟨.kept rfl rfl rfl (fun _ ↦ rfl) ?_, hs⟩
    rw [perform, Inventory.add]
    split <;> rfl
  | removeItem item => exact ⟨.kept rfl rfl rfl (fun _ ↦ rfl) rfl, hs⟩
  | run command =>
    refine ⟨.kept rfl rfl rfl (fun h ↦ e.world.store_run h) ?_, hs⟩
    simp [perform]
  | apply s tree =>
    obtain ⟨hvalue, hnotices⟩ := e.perform_apply s tree
    rw [hvalue, hnotices]
    exact Snapshot.outcome_apply _ he s tree

/-- Operations keep an engine coherent. -/
theorem coherent_perform (he : e.Coherent) (op : Operation) : (e.perform op).value.2.Coherent :=
  (outcome_perform he op).1.coherent he (outcome_perform he op).2

/-- An operation changes the store by writes only. -/
theorem writes_perform (he : e.Coherent) (op : Operation) :
    e.WritesTo (e.perform op).notices (e.perform op).value.2 := by
  cases op with
  | start tree => simpa [perform] using e.writes_start tree
  | startAt tree node => simpa [perform] using e.writes_startAt tree node
  | resumeAt tree node => simpa [perform] using e.writes_resumeAt tree node
  | select index => simpa [perform] using e.writes_select index
  | advance => simpa [perform] using e.writes_advance
  | forceEnd => simpa [perform] using e.writes_forceEnd
  | update elapsed =>
    simp only [perform, Told.value_bind, Told.notices_bind, Told.value_pure, Told.notices_pure,
      List.append_nil]
    rcases update_spec he elapsed with
      ⟨-, schedule, hupdate, -⟩ | ⟨-, schedule, hvalue, hnotices, -⟩
    · rw [hupdate]
      exact .nil _
    · rw [hvalue, hnotices]
      exact .nil _
  | write w => simpa [perform] using e.writes_withStore w
  | addItem item =>
    have hnotices : (e.perform (.addItem item)).notices = [] := by simp [perform]
    rw [hnotices]
    exact .nil _
  | removeItem item => exact .nil _
  | run command =>
    rw [WritesTo]
    simpa [perform] using e.world.writes_run command
  | apply s tree =>
    obtain ⟨hvalue, hnotices⟩ := e.perform_apply s tree
    rw [hvalue, hnotices]
    exact s.writes_apply e tree

/-! ### Runs -/

/-- What an engine is after operations. -/
def after (e : Engine) (ops : List Operation) : Engine := (e.performAll ops).value.2

@[simp] theorem after_nil (e : Engine) : e.after [] = e := rfl

@[simp] theorem after_cons (e : Engine) (op : Operation) (ops : List Operation) :
    e.after (op :: ops) = (e.perform op).value.2.after ops := rfl

theorem after_append (e : Engine) (ops more : List Operation) :
    e.after (ops ++ more) = (e.after ops).after more := by
  induction ops generalizing e with
  | nil => rfl
  | cons op ops ih => rw [List.cons_append, after_cons, after_cons, ih]

@[simp] theorem notices_performAll_nil (e : Engine) : (e.performAll []).notices = [] := rfl

@[simp] theorem notices_performAll_cons (e : Engine) (op : Operation) (ops : List Operation) :
    (e.performAll (op :: ops)).notices =
      (e.perform op).notices ++ ((e.perform op).value.2.performAll ops).notices := by
  simp [performAll]

/-- An engine is coherent after any operations. -/
theorem Coherent.after (he : e.Coherent) (ops : List Operation) : (e.after ops).Coherent := by
  induction ops generalizing e with
  | nil => exact he
  | cons op ops ih => exact ih (coherent_perform he op)

/-- What operations write to the store is what they announce of it. -/
theorem writes_after (he : e.Coherent) (ops : List Operation) :
    e.WritesTo (e.performAll ops).notices (e.after ops) := by
  induction ops generalizing e with
  | nil => exact .nil _
  | cons op ops ih =>
    rw [notices_performAll_cons]
    exact (writes_perform he op).trans (ih (coherent_perform he op))

/-! ### Since a node was displayed -/

/-- A run, split at the last operation that displays a node. -/
structure LastDisplay (e : Engine) (ops before : List Operation) (op : Operation)
    (since : List Operation) : Prop where
  ops_eq : ops = before ++ op :: since
  displays : displaysNode ((e.after before).perform op).notices = true
  silent : displaysNode ((e.after (before ++ [op])).performAll since).notices = false

/-- An engine whose dialogue went on, after a run in which the host wrote nothing. -/
theorem Moved.after {before : List Notice} (h : Moved before e) (he : e.Coherent)
    {ops : List Operation} (hops : ∀ op ∈ ops, op.isHostWrite = false) :
    Moved (before ++ (e.performAll ops).notices) (e.after ops) := by
  induction ops generalizing e before with
  | nil => simpa using h
  | cons op ops ih =>
    obtain ⟨hop, hops⟩ := List.forall_mem_cons.mp hops
    have houtcome := (outcome_perform he op).1
    rw [hop] at houtcome
    rw [notices_performAll_cons, ← List.append_assoc]
    exact ih (h.andThen houtcome) (coherent_perform he op) hops

/-- An operation that displays a node leaves it on screen. -/
theorem moved_of_displays (he : e.Coherent) {op : Operation}
    (h : displaysNode (e.perform op).notices = true) :
    Moved (e.perform op).notices (e.perform op).value.2 := by
  cases (outcome_perform he op).1 with
  | kept _ _ _ _ silent => simp [silent] at h
  | moved hmoved => exact hmoved

/-- If a node was displayed, one of the operations displayed one last. -/
theorem exists_last_display {ops : List Operation}
    (h : displaysNode (e.performAll ops).notices = true) :
    ∃ before op since, e.LastDisplay ops before op since := by
  induction ops generalizing e with
  | nil => simp at h
  | cons first ops ih =>
    -- `first` is the last one only if nothing is displayed behind it
    by_cases hops : displaysNode ((e.perform first).value.2.performAll ops).notices = true
    · obtain ⟨before, op, since, hlast⟩ := ih hops
      exact ⟨first :: before, op, since, by rw [hlast.ops_eq, List.cons_append], hlast.displays,
        hlast.silent⟩
    · rw [notices_performAll_cons, displaysNode_append, eq_false_of_ne_true hops,
        Bool.or_false] at h
      exact ⟨[], first, ops, rfl, h, eq_false_of_ne_true hops⟩

/-- In a run in which no node is displayed, the dialogue and its timer stay as they are, or the
dialogue ends. -/
theorem silent_run (he : e.Coherent) {ops : List Operation}
    (h : displaysNode (e.performAll ops).notices = false) :
    (e.after ops).active = none ∨
      (e.after ops).active = e.active ∧ (e.after ops).pendingEnd = e.pendingEnd ∧
        (e.after ops).schedule.live = e.schedule.live := by
  induction ops generalizing e with
  | nil => exact .inr ⟨rfl, rfl, rfl⟩
  | cons op ops ih =>
    rw [notices_performAll_cons, displaysNode_append, Bool.or_eq_false_iff] at h
    have hrun := ih (coherent_perform he op) h.2
    cases (outcome_perform he op).1 with
    | kept active pendingEnd live =>
      rw [active, pendingEnd, live] at hrun
      exact hrun
    | moved hmoved =>
      cases hmoved with
      | ended active =>
        -- without a display no other dialogue starts
        rw [active] at hrun
        exact .inl (hrun.elim id And.left)
      | shown tree node shows displays => simp [displays] at h

end Engine

/-! ### Sessions -/

/-- A session: the operations on an engine that is new. -/
structure Session where
  /-- What the store starts from. -/
  seeds : Seeds := {}
  /-- The items that the player starts with. -/
  inventory : Inventory := {}
  /-- The timing. -/
  settings : Settings := {}
  /-- What is asked of the engine. -/
  ops : List Operation := []

namespace Session

variable (x : Session)

/-- The engine with which a session starts. No dialogue runs. -/
def start : Engine where
  world := ⟨(Store.ofSeeds x.seeds : Told Change Store).value, x.inventory⟩
  settings := x.settings

/-- The engine that a session has reached. -/
def engine : Engine := x.start.after x.ops

/-- The engine that a session starts from is coherent. -/
theorem coherent_start : x.start.Coherent where
  schedule := Schedule.sound_empty
  active a ha := by cases ha
  timer := .inl ⟨rfl, rfl⟩

/-- In every state that a session reaches, the parts of the engine agree. -/
theorem coherent : x.engine.Coherent := x.coherent_start.after x.ops

/-- In every state that a session reaches, the store keeps what it started from. -/
theorem from_seeds : x.engine.world.store.From x.seeds :=
  (Store.from_ofSeeds x.seeds).writes (Engine.writes_after x.coherent_start x.ops)

/-- A node on screen was displayed in the course of the session. -/
theorem exists_lastDisplay (h : x.engine.isActive = true) :
    ∃ before op since, x.start.LastDisplay x.ops before op since := by
  by_cases hdisplays : displaysNode (x.start.performAll x.ops).notices = true
  · exact Engine.exists_last_display hdisplays
  · -- without a display no dialogue has begun
    rcases Engine.silent_run x.coherent_start (eq_false_of_ne_true hdisplays) with
      hidle | ⟨hidle, -⟩
    · rw [engine, Engine.isActive, hidle] at h
      exact absurd h Bool.false_ne_true
    · rw [engine, Engine.isActive, hidle] at h
      exact absurd h Bool.false_ne_true

end Session

/-! ### A house with one door -/

/-- An end node with a choice that a switch makes visible. -/
def doorNode : Node where
  id := "door"
  choices := [{ text := "Enter", condition := some "open" }]
  isEnd := true

/-- A second, less than the node stays on screen. -/
def second : Duration := .ofNanos Duration.perSecond

/-- The tree of that node alone. -/
def doorTree : IndexedTree where
  tree := { id := "house", startNode := some "door", nodes := [doorNode] }
  index := KeyMap.empty.insert "door" doorNode
  index_eq := rfl

end Storyline
