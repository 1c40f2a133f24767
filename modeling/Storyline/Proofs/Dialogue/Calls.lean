import Storyline.Proofs.Dialogue.Frame

/-!
# The ways a call goes

A call is refused for a reason (`Engine.Refused`), or it is carried out and comes down to one
phase (`Engine.CarriedOut`). For each call this is said once, with the condition for each way
(`Engine.startAt_cases`, `Engine.select_cases` and so on); whatever is proved of calls takes it
from there.
-/

namespace Storyline

namespace Engine

variable {e : Engine}

/-- A call was refused: it announced nothing, and the engine is as it was. -/
structure Refused (e : Engine) (call : Told Notice (Except DialogueError Unit × Engine))
    (err : DialogueError) : Prop where
  value : call.value = (.error err, e)
  notices : call.notices = []

/-- A call was carried out: beyond records in the log, it did what the phase does. -/
structure CarriedOut (call : Told Notice (Except DialogueError Unit × Engine))
    (phase : Told Notice Engine) : Prop where
  value : call.value = (.ok (), phase.value)
  notices : call.notices = phase.notices

/-! ### The answer to a call -/

/-- A refusal has no effect beyond the log. -/
theorem refused_refuse (e : Engine) (err : DialogueError) : Refused e (e.refuse err) err :=
  ⟨rfl, rfl⟩

/-- A call that is refused only after something was looked up. -/
theorem Refused.after {β : Type} {x : Told Notice β}
    {f : β → Told Notice (Except DialogueError Unit × Engine)} {err : DialogueError}
    (h : Refused e (f x.value) err) (hx : x.notices = []) : Refused e (x >>= f) err where
  value := by rw [Told.value_bind, h.value]
  notices := by rw [Told.notices_bind, hx, h.notices, List.append_nil]

/-- Carrying a call out is what its phase does. -/
theorem carriedOut_carryOut {x phase : Told Notice Engine} (hvalue : x.value = phase.value)
    (hnotices : x.notices = phase.notices) : CarriedOut (carryOut x) phase where
  value := by rw [carryOut, Told.value_bind, hvalue]; rfl
  notices := by rw [carryOut, Told.notices_bind, hnotices]; exact List.append_nil _

/-- A call that is carried out after something was looked up. -/
theorem CarriedOut.after {β : Type} {x : Told Notice β}
    {f : β → Told Notice (Except DialogueError Unit × Engine)} {phase : Told Notice Engine}
    (h : CarriedOut (f x.value) phase) (hx : x.notices = []) : CarriedOut (x >>= f) phase where
  value := by rw [Told.value_bind, h.value]
  notices := by rw [Told.notices_bind, hx, h.notices, List.nil_append]

/-! ### Starting and resuming -/

/-- Starting a tree at a node is refused if the tree does not have it, and else shows it. -/
theorem startAt_cases (e : Engine) (tree : IndexedTree) (name : String) :
    (tree.node? name = none ∧
        Refused e (e.startAt tree name) (.nodeNotFound tree.id name)) ∨
      ∃ node, tree.node? name = some node ∧
        CarriedOut (e.startAt tree name) (e.showNode tree (some node.id)) := by
  rw [startAt]
  rcases tree.node? name with - | node
  · exact .inl ⟨rfl, e.refused_refuse _⟩
  · refine .inr ⟨node, rfl, ?_⟩
    rcases e.active with - | a
    · exact carriedOut_carryOut rfl (by simp)
    · exact carriedOut_carryOut rfl (by simp)

/-- Starting a tree is refused if it names no node to start at, and else starts it there. -/
theorem start_cases (e : Engine) (tree : IndexedTree) :
    (tree.tree.startNode = none ∧ Refused e (e.start tree) (.missingStart tree.id)) ∨
      ∃ name, tree.tree.startNode = some name ∧ e.start tree = e.startAt tree name := by
  rw [start]
  rcases tree.tree.startNode with - | name
  · exact .inl ⟨rfl, e.refused_refuse _⟩
  · exact .inr ⟨name, rfl, rfl⟩

/-- What resuming at a node does: the node is announced anew, its commands are not run. -/
def resume (e : Engine) (tree : IndexedTree) (node : Node) : Told Notice Engine := do
  let e ← e.cancelPendingEnd
  announceNode { e with active := some ⟨tree, node.id⟩ } tree node

/-- Resuming is refused if the tree does not have the node. -/
theorem resumeAt_cases (e : Engine) (tree : IndexedTree) (name : String) :
    (tree.node? name = none ∧
        Refused e (e.resumeAt tree name) (.nodeNotFound tree.id name)) ∨
      ∃ node, tree.node? name = some node ∧
        CarriedOut (e.resumeAt tree name) (e.resume tree node) := by
  rw [resumeAt]
  rcases tree.node? name with - | node
  · exact .inl ⟨rfl, e.refused_refuse _⟩
  · exact .inr ⟨node, rfl, carriedOut_carryOut rfl (by simp [resume])⟩

/-- A node that is resumed at is on screen, in the world as it is. -/
theorem resume_spec (e : Engine) (tree : IndexedTree) (node : Node) :
    (e.resume tree node).value.active = some ⟨tree, node.id⟩ ∧
      (e.resume tree node).value.world = e.world ∧
      (e.resume tree node).notices =
        [.event (.nodeDisplayed tree.tree node),
          .event (.choicesUpdated node (node.shown e.world.store).length)] := by
  simp [resume]

/-! ### Going on -/

/-- Taking a choice is refused without a node on screen, or if there is no visible choice at the
place; else the choice is taken. -/
theorem select_cases (e : Engine) (index : Nat) :
    (∃ err, e.activeNode = .error err ∧ Refused e (e.select index) err) ∨
      ∃ tree node, e.activeNode = .ok (tree, node) ∧
        (((node.shown e.world.store)[index]? = none ∧
            Refused e (e.select index)
              (.invalidChoice index (node.shown e.world.store).length)) ∨
          ∃ i choice, (node.shown e.world.store)[index]? = some (i, choice) ∧
            CarriedOut (e.select index) (e.take tree node choice index)) := by
  rw [select]
  rcases e.activeNode with err | ⟨tree, node⟩
  · exact .inl ⟨err, rfl, e.refused_refuse err⟩
  · refine .inr ⟨tree, node, rfl, ?_⟩
    rcases hchoice : (node.shown e.world.store)[index]? with - | ⟨i, choice⟩
    · refine .inl ⟨rfl, .after ?_ (node.notices_visible _)⟩
      rw [node.value_visible, hchoice]
      exact e.refused_refuse _
    · refine .inr ⟨i, choice, rfl, .after ?_ (node.notices_visible _)⟩
      rw [node.value_visible, hchoice]
      exact carriedOut_carryOut rfl rfl

/-- Going on is refused without a node on screen, or if a choice is visible; else the node is
left. -/
theorem advance_cases (e : Engine) :
    (∃ err, e.activeNode = .error err ∧ Refused e e.advance err) ∨
      ∃ tree node, e.activeNode = .ok (tree, node) ∧
        ((node.shown e.world.store ≠ [] ∧
            Refused e e.advance (.choicesPending (node.shown e.world.store).length)) ∨
          node.shown e.world.store = [] ∧ CarriedOut e.advance (e.leave tree node)) := by
  rw [advance]
  rcases e.activeNode with err | ⟨tree, node⟩
  · exact .inl ⟨err, rfl, e.refused_refuse err⟩
  · refine .inr ⟨tree, node, rfl, ?_⟩
    by_cases hshown : node.shown e.world.store = []
    · refine .inr ⟨hshown, .after ?_ (node.notices_visible _)⟩
      rw [node.value_visible, hshown]
      exact carriedOut_carryOut rfl rfl
    · have hpos : 0 < (node.shown e.world.store).length := List.length_pos_iff.mpr hshown
      refine .inl ⟨hshown, .after ?_ (node.notices_visible _)⟩
      rw [node.value_visible, if_pos hpos]
      exact e.refused_refuse _

/-! ### What a call does to the store -/

variable {call : Told Notice (Except DialogueError Unit × Engine)}

/-- A refused call writes nothing. -/
theorem Refused.writes {err : DialogueError} (h : Refused e call err) :
    e.WritesTo call.notices call.value.2 := by
  rw [h.value, h.notices]
  exact .nil _

/-- A call that is carried out writes what its phase does. -/
theorem CarriedOut.writes {phase : Told Notice Engine} (h : CarriedOut call phase)
    (hphase : e.WritesTo phase.notices phase.value) : e.WritesTo call.notices call.value.2 := by
  rw [h.value, h.notices]
  exact hphase

theorem writes_startAt (e : Engine) (tree : IndexedTree) (name : String) :
    e.WritesTo (e.startAt tree name).notices (e.startAt tree name).value.2 := by
  rcases e.startAt_cases tree name with ⟨-, h⟩ | ⟨node, -, h⟩
  · exact h.writes
  · exact h.writes (e.writes_showNode tree (some node.id))

theorem writes_start (e : Engine) (tree : IndexedTree) :
    e.WritesTo (e.start tree).notices (e.start tree).value.2 := by
  rcases e.start_cases tree with ⟨-, h⟩ | ⟨name, -, h⟩
  · exact h.writes
  · rw [h]
    exact e.writes_startAt tree name

theorem writes_resumeAt (e : Engine) (tree : IndexedTree) (name : String) :
    e.WritesTo (e.resumeAt tree name).notices (e.resumeAt tree name).value.2 := by
  rcases e.resumeAt_cases tree name with ⟨-, h⟩ | ⟨node, -, h⟩
  · exact h.writes
  · obtain ⟨-, hworld, hnotices⟩ := e.resume_spec tree node
    refine h.writes (writesTo_of_world_eq hworld ?_)
    rw [hnotices]
    rfl

theorem writes_select (e : Engine) (index : Nat) :
    e.WritesTo (e.select index).notices (e.select index).value.2 := by
  rcases e.select_cases index with ⟨err, -, h⟩ | ⟨tree, node, -, ⟨-, h⟩ | ⟨i, choice, -, h⟩⟩
  · exact h.writes
  · exact h.writes
  · exact h.writes (e.writes_take tree node choice index)

theorem writes_advance (e : Engine) : e.WritesTo e.advance.notices e.advance.value.2 := by
  rcases e.advance_cases with ⟨err, -, h⟩ | ⟨tree, node, -, ⟨-, h⟩ | ⟨-, h⟩⟩
  · exact h.writes
  · exact h.writes
  · exact h.writes (e.writes_leave tree node)

end Engine

end Storyline
