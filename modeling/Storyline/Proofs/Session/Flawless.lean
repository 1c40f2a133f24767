import Storyline.Proofs.Dialogue.Flawless
import Storyline.Proofs.Session.Run

/-!
# Sessions in a tree that passes the checks

The checks before play rule out what an engine would have to pass over in play. A tree that passes
them starts in whatever state an engine is, its commands are all executed where they are reached,
and in a session that plays no other tree no operation comes across broken content
(`Session.flawless_of_checks`); only a command that the host itself gives may still be none.

The invariant is that the node on screen belongs to the tree (`Engine.Plays`). Every operation
keeps it (`Engine.plays_perform`), and where it holds each operation is flawless
(`Engine.flawless_perform_iff`).
-/

namespace Storyline

/-- The trees that an operation plays. -/
def Operation.trees : Operation → List IndexedTree
  | .start tree => [tree]
  | .startAt tree _ => [tree]
  | .resumeAt tree _ => [tree]
  | .apply _ tree => tree.toList
  | _ => []

/-- An operation that plays no other tree. -/
def Operation.PlaysOnly (t : IndexedTree) (op : Operation) : Prop := ∀ tree ∈ op.trees, tree = t

namespace Engine

variable {e : Engine} {t : IndexedTree}

/-- A sound tree can be started. -/
theorem answer_start (ht : t.Sound) (e : Engine) : (e.start t).value.1 = .ok () := by
  obtain ⟨name, hstart, hknown⟩ := ht.start
  rcases e.start_cases t with ⟨hnone, -⟩ | ⟨name', hname', hcall⟩
  · rw [hstart] at hnone
    cases hnone
  · obtain rfl : name = name' := Option.some.inj (hstart.symm.trans hname')
    rw [hcall]
    rcases e.startAt_cases t name with ⟨hmissing, -⟩ | ⟨node, -, hdone⟩
    · rw [IndexedTree.knows, hmissing] at hknown
      cases hknown
    · rw [hdone.value]

/-- Looking for the visible choices of the node on screen. -/
theorem flawless_visibleChoices (ht : t.Sound) (he : e.Plays t) :
    Flawless (e.visibleChoices : Told Notice (List (Nat × Choice))) := by
  rw [visibleChoices]
  rcases hnode : e.currentNode? with - | node
  · exact flawless_pure _
  · obtain ⟨a, ha, hnode⟩ := Option.bind_eq_some_iff.mp hnode
    rw [he a ha] at hnode
    refine (node.flawless_visible_iff _).mpr fun c hc ↦ ?_
    exact ((ht.nodes a.nodeId node hnode).choices c hc).condition

/-! ### One operation -/

/-- An operation that is no command of the host comes across no broken content. -/
theorem cleanCall_perform (ht : t.Sound) (he : e.Plays t) {op : Operation} (hop : op.PlaysOnly t)
    (hrun : ∀ raw, op = .run raw → isCommand raw = true) : CleanCall t (e.perform op) := by
  cases op with
  | start tree =>
    obtain rfl : tree = t := hop tree (by simp [Operation.trees])
    have hcall := cleanCall_start ht he
    exact ⟨by simpa [perform] using hcall.flawless, hcall.plays⟩
  | startAt tree node =>
    obtain rfl : tree = t := hop tree (by simp [Operation.trees])
    have hcall := cleanCall_startAt ht he node
    exact ⟨by simpa [perform] using hcall.flawless, hcall.plays⟩
  | resumeAt tree node =>
    obtain rfl : tree = t := hop tree (by simp [Operation.trees])
    have hcall := cleanCall_resumeAt ht he node
    exact ⟨by simpa [perform] using hcall.flawless, hcall.plays⟩
  | select index =>
    have hcall := cleanCall_select ht he index
    exact ⟨by simpa [perform] using hcall.flawless, hcall.plays⟩
  | advance =>
    have hcall := cleanCall_advance ht he
    exact ⟨by simpa [perform] using hcall.flawless, hcall.plays⟩
  | forceEnd =>
    have hcall := cleanCall_forceEnd he
    exact ⟨by simpa [perform] using hcall.flawless, hcall.plays⟩
  | update elapsed =>
    have hupdate := clean_update he elapsed
    exact ⟨by simpa [perform] using hupdate.flawless, hupdate.plays⟩
  | write w => exact ⟨by simpa [perform] using e.flawless_withStore w, he⟩
  | addItem item => exact ⟨by simp [perform], he⟩
  | removeItem item => exact ⟨flawless_pure _, he⟩
  | run command =>
    have hcommand := (e.world.flawless_run_iff command).mpr (hrun command rfl)
    exact ⟨by simpa [perform] using hcommand, he⟩
  | apply s tree =>
    have htree (t' : IndexedTree) (h : tree = some t') : t' = t :=
      hop t' (by simp [Operation.trees, h])
    have hcall := s.cleanCall_apply ht he htree
    constructor
    · rw [perform, flawless_bind]
      refine ⟨hcall.flawless, ?_⟩
      rcases (s.apply e tree).value with ⟨err | -, after⟩ <;> exact flawless_pure _
    · rw [(e.perform_apply s tree).1]
      exact hcall.plays

/-- The node on screen stays in the tree. A command of the host does not touch it. -/
theorem plays_perform (ht : t.Sound) (he : e.Plays t) {op : Operation} (hop : op.PlaysOnly t) :
    (e.perform op).value.2.Plays t := by
  by_cases hrun : ∃ raw, op = .run raw
  · obtain ⟨raw, rfl⟩ := hrun
    exact he
  · exact (cleanCall_perform ht he hop fun raw hraw ↦ absurd ⟨raw, hraw⟩ hrun).plays

/-- In a sound tree there are no warnings of broken content but those of the host's commands. -/
theorem flawless_perform_iff (ht : t.Sound) (he : e.Plays t) {op : Operation}
    (hop : op.PlaysOnly t) :
    Flawless (e.perform op) ↔ ∀ raw, op = .run raw → isCommand raw = true := by
  constructor
  · rintro hflawless raw rfl
    rw [← e.world.flawless_run_iff raw]
    simpa [perform] using hflawless
  · exact fun hrun ↦ (cleanCall_perform ht he hop hrun).flawless

/-- Through any operations that play no other tree, the node on screen stays in it. -/
theorem plays_after (ht : t.Sound) (he : e.Plays t) {ops : List Operation}
    (hops : ∀ op ∈ ops, op.PlaysOnly t) : (e.after ops).Plays t := by
  induction ops generalizing e with
  | nil => exact he
  | cons op ops ih =>
    obtain ⟨hop, hops⟩ := List.forall_mem_cons.mp hops
    exact ih (plays_perform ht he hop) hops

end Engine

/-- A command that can be read is carried out in every world. -/
theorem World.isSome_run (w : World) (raw : String) :
    (w.run raw).value.1.isSome = isCommand raw := by
  rw [run, isCommand]
  rcases Command.parse raw with err | command
  · rfl
  · rfl

namespace Session

/-- What a tree that passes both checks is good for.

It can be indexed, and from every state that a session reaches it starts. Its content is sound, and
its commands are carried out in every world; an engine that runs those of a node executes them in
their order, all of them, with no warning of broken content. And in a session that plays no other
tree, the node on screen is always one of its nodes and nothing that is done or asked gives a
warning of broken content, except that a command which the host gives gets one if it cannot be
read. -/
theorem flawless_of_checks (t : Tree) (hdefects : t.defects = []) (hlint : t.lint = []) :
    ∃ it : IndexedTree, t.indexed = .ok it ∧ it.Sound ∧
      (∀ name node, it.node? name = some node →
        ∀ raw ∈ node.startCommands ++ node.endCommands, ∀ w : World,
          (w.run raw).value.1.isSome = true) ∧
      (∀ name node, it.node? name = some node →
        ∀ commands ∈ [node.startCommands, node.endCommands], ∀ e : Engine,
          Engine.Executed e.world commands (e.runCommands commands).notices
              (e.runCommands commands).value.world ∧
            flaws (e.runCommands commands).signals = []) ∧
      (∀ x : Session, (x.engine.start it).value.1 = .ok ()) ∧
      ∀ x : Session, (∀ op ∈ x.ops, op.PlaysOnly it) →
        x.engine.Plays it ∧
          flaws (x.engine.visibleChoices : Told Notice (List (Nat × Choice))).signals = [] ∧
          ∀ op : Operation, op.PlaysOnly it →
            (flaws (x.engine.perform op).signals = [] ↔
              ∀ raw, op = .run raw → isCommand raw = true) := by
  obtain ⟨it, hindexed, rfl⟩ := Tree.exists_indexed hdefects
  have hsound := IndexedTree.sound_of_checks hdefects hlint
  refine ⟨it, hindexed, hsound, fun name node hnode raw hraw w ↦ ?_,
    fun name node hnode commands hcommands e ↦ ?_,
    fun x ↦ Engine.answer_start hsound x.engine, fun x hops ↦ ?_⟩
  · have hnode := hsound.nodes name node hnode
    rw [w.isSome_run]
    exact (List.mem_append.mp hraw).elim (hnode.startCommands raw) (hnode.endCommands raw)
  · have hread : ∀ raw ∈ commands, isCommand raw = true := by
      have hnode := hsound.nodes name node hnode
      obtain rfl | rfl : commands = node.startCommands ∨ commands = node.endCommands := by
        simpa using hcommands
      · exact hnode.startCommands
      · exact hnode.endCommands
    exact ⟨(e.executed_runCommands_iff commands).mpr hread,
      (e.flawless_runCommands_iff commands).mpr hread⟩
  · have hplays : x.engine.Plays it :=
      Engine.plays_after hsound (Engine.plays_of_idle rfl) hops
    exact ⟨hplays, Engine.flawless_visibleChoices hsound hplays,
      fun op hop ↦ Engine.flawless_perform_iff hsound hplays hop⟩

/-- A tree with a command, an impact and two conditions, and a link in another spelling. -/
def stairs : Tree where
  id := "stairs"
  startNode := some " Top"
  nodes := [
    { id := "top", startCommands := ["flag: lamp"],
      choices := [
        { text := "Go down", nextNode := some "CELLAR ", condition := some "lamp",
          impacts := [⟨"Courage", 1, some "courage < 3"⟩] }] },
    { id := "Cellar", endCommands := ["var:visits + 1"], autoNext := some "top" }]

/-- On the stairs, the player goes down. -/
theorem flawless_stairs :
    stairs.defects = [] ∧ stairs.lint = [] ∧
      ∃ it : IndexedTree, stairs.indexed = .ok it ∧
        ((engine { ops := [.start it] }).start it).value.1 = .ok () ∧
        flaws ((engine { ops := [.start it] }).perform (.select 0)).signals = [] := by
  have hdefects : stairs.defects = [] := by decide +kernel
  have hlint : stairs.lint = [] := by decide +kernel
  obtain ⟨it, hindexed, -, -, -, hstart, hrun⟩ := flawless_of_checks stairs hdefects hlint
  obtain ⟨-, -, hperform⟩ := hrun { ops := [.start it] } (by
    simp [Operation.PlaysOnly, Operation.trees])
  have hselect := (hperform (.select 0) (by simp [Operation.PlaysOnly, Operation.trees])).mpr
    fun raw hraw ↦ by cases hraw
  exact ⟨hdefects, hlint, it, hindexed, hstart _, hselect⟩

/-- A node with content that cannot be used: a command, a link and a condition. -/
def lid : Node where
  id := "lid"
  startCommands := ["creak"]
  choices := [
    { text := "Jump", nextNode := some "pit" },
    { text := "Wait", condition := some "courage <" }]

/-- Where the checks are not made, all of it comes to light in play; the condition does so whenever
the choices are looked at. -/
example :
    let trap : IndexedTree :=
      { tree := { id := "trap", startNode := some "lid", nodes := [lid] }
        index := KeyMap.empty.insert "lid" lid
        index_eq := rfl }
    (flaws ((start {}).performAll [.start trap, .select 0]).signals).map (·.text) =
      ["skipping command \"creak\": expected 'type:param', found 'creak'",
        "condition \"courage <\" could not be evaluated: missing value after '<'",
        "condition \"courage <\" could not be evaluated: missing value after '<'",
        "content error: dialogue 'trap' links to missing node 'pit'; ending dialogue"] := by
  decide +kernel

end Session

end Storyline
