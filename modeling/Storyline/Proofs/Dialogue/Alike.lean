import Storyline.Proofs.Dialogue.Frame

/-!
# Engines that differ in their timing only

Two engines are alike if they have the same world and the same node on screen (`Engine.Alike`);
their clocks and what waits on them may differ. As long as no time passes this does not show:
every call gives the same answer and the same notices on both, and leaves them alike. `Told.Agree`
says this of a phase of a call, and chaining keeps it (`Told.Agree.bind`).
-/

namespace Storyline

namespace Told

variable {α β γ δ ε : Type}

/-- The same notices were given, and the values are related. -/
structure Agree (R : β → γ → Prop) (x : Told α β) (y : Told α γ) : Prop where
  value : R x.value y.value
  notices : x.notices = y.notices

variable {R : β → γ → Prop} {S : δ → ε → Prop}

theorem Agree.pure {b : β} {c : γ} (h : R b c) :
    Agree R (Pure.pure b : Told α β) (Pure.pure c : Told α γ) := ⟨h, rfl⟩

/-- Two sequences agree if their first parts do, and their second parts for whatever the first ones
give. -/
theorem Agree.bind {x : Told α β} {y : Told α γ} {f : β → Told α δ} {g : γ → Told α ε}
    (h : Agree R x y) (hf : ∀ b c, R b c → Agree S (f b) (g c)) : Agree S (x >>= f) (y >>= g) where
  value := (hf _ _ h.value).value
  notices := by rw [notices_bind, notices_bind, h.notices, (hf _ _ h.value).notices]

/-- What agrees still does behind a record in the log. -/
theorem Agree.log {x : Told α β} {y : Told α γ} (h : Agree R x y) (l l' : Level) (t t' : String) :
    Agree R (Told.log l t >>= fun _ ↦ x) (Told.log l' t' >>= fun _ ↦ y) where
  value := h.value
  notices := by simpa using h.notices

/-- What agrees still does behind a common beginning. -/
theorem Agree.after {f : β → Told α δ} {g : β → Told α ε} (h : ∀ b, Agree S (f b) (g b))
    (x : Told α β) : Agree S (x >>= f) (x >>= g) where
  value := (h _).value
  notices := by rw [notices_bind, notices_bind, (h _).notices]

end Told

namespace Engine

open Told

/-- The same world, and the same node on screen. -/
structure Alike (e d : Engine) : Prop where
  world : e.world = d.world
  active : e.active = d.active

/-- The same answer, with engines that are alike. -/
def SameAnswer {β : Type} (p q : β × Engine) : Prop := p.1 = q.1 ∧ Alike p.2 q.2

variable {e d : Engine}

/-- Engines stay alike with another node on screen. -/
theorem Alike.withActive (h : Alike e d) (active : Option ActiveNode) :
    Alike { e with active } { d with active } := ⟨h.world, rfl⟩

/-! ### Phases -/

/-- Running commands depends on the world only. -/
theorem agree_runCommands (h : Alike e d) (commands : List String) :
    Agree Alike (e.runCommands commands) (d.runCommands commands) := by
  obtain ⟨hvalue, hnotices⟩ := runCommands_congr h.world commands
  refine ⟨⟨by rw [hvalue], ?_⟩, hnotices⟩
  rw [hvalue, runCommands_eq d]
  exact h.active

theorem agree_applyImpacts (h : Alike e d) (node : Node) (impacts : List Impact) :
    Agree Alike (e.applyImpacts node impacts) (d.applyImpacts node impacts) := by
  obtain ⟨hvalue, hnotices⟩ := applyImpacts_congr h.world node impacts
  refine ⟨⟨by rw [hvalue], ?_⟩, hnotices⟩
  rw [hvalue, applyImpacts_eq d]
  exact h.active

/-- Giving up the closing that waits cannot be told from outside. -/
theorem agree_cancelPendingEnd (h : Alike e d) :
    Agree Alike e.cancelPendingEnd d.cancelPendingEnd where
  value := ⟨by simp [h.world], by simp [h.active]⟩
  notices := by simp

/-- Ending depends on whether a dialogue is running, not on what waits. -/
theorem agree_endDialogue (h : Alike e d) : Agree Alike e.endDialogue d.endDialogue where
  value := ⟨by simp [h.world], by simp⟩
  notices := by rw [notices_endDialogue, notices_endDialogue, h.active]

/-- What is announced of a node depends on the world. -/
theorem agree_announceNode (h : Alike e d) (tree : IndexedTree) (node : Node) :
    Agree Alike (e.announceNode tree node) (d.announceNode tree node) where
  value := ⟨by simp [h.world], by simp [h.active]⟩
  notices := by simp [h.world]

theorem agree_enter (h : Alike e d) (tree : IndexedTree) (node : Node) :
    Agree Alike (e.enter tree node) (d.enter tree node) := by
  refine Agree.log ?_ _ _ _ _
  refine Agree.bind (agree_runCommands (h.withActive _) node.startCommands) fun e d h ↦ ?_
  exact agree_announceNode h tree node

/-- Going on to a node does the same in both engines. -/
theorem agree_showNode (h : Alike e d) (tree : IndexedTree) (name : Option String) :
    Agree Alike (e.showNode tree name) (d.showNode tree name) := by
  refine Agree.bind (agree_cancelPendingEnd h) fun e d h ↦ ?_
  rcases name with - | name
  · exact agree_endDialogue h
  · dsimp only
    rcases tree.node? name with - | node
    · exact (agree_endDialogue h).log _ _ _ _
    · exact agree_enter h tree node

theorem agree_take (h : Alike e d) (tree : IndexedTree) (node : Node) (choice : Choice)
    (index : Nat) :
    Agree Alike (e.take tree node choice index) (d.take tree node choice index) := by
  refine Agree.log ?_ _ _ _ _
  refine Agree.after (fun _ ↦ ?_) (emit _)
  refine Agree.bind (agree_applyImpacts h node choice.impacts) fun e d h ↦ ?_
  refine Agree.bind (agree_runCommands h node.endCommands) fun e d h ↦ ?_
  exact agree_showNode h tree choice.nextNode

theorem agree_leave (h : Alike e d) (tree : IndexedTree) (node : Node) :
    Agree Alike (e.leave tree node) (d.leave tree node) := by
  rw [leave, leave]
  rcases node.autoNext with - | next
  · exact (agree_endDialogue h).log _ _ _ _
  · refine Agree.bind (agree_runCommands h node.endCommands) fun e d h ↦ ?_
    exact agree_showNode h tree (some next)

/-! ### Calls -/

/-- A refusal leaves both engines as alike as they were. -/
theorem agree_refuse (h : Alike e d) (err : DialogueError) :
    Agree SameAnswer (e.refuse err) (d.refuse err) :=
  (Agree.pure ⟨rfl, h⟩).log _ _ _ _

/-- A call that is carried out in both leaves them alike if its phases do. -/
theorem agree_carryOut {x y : Told Notice Engine} (hxy : Agree Alike x y) :
    Agree SameAnswer (carryOut x) (carryOut y) :=
  Agree.bind hxy fun _ _ h ↦ Agree.pure ⟨rfl, h⟩

/-- Starting a tree at a node has the same answer. -/
theorem agree_startAt (h : Alike e d) (tree : IndexedTree) (name : String) :
    Agree SameAnswer (e.startAt tree name) (d.startAt tree name) := by
  rw [startAt, startAt]
  rcases tree.node? name with - | node
  · exact agree_refuse h _
  · refine agree_carryOut ?_
    rw [h.active]
    have hshow := agree_showNode h tree (some node.id)
    rcases d.active with - | a
    · exact hshow.log _ _ _ _
    · exact (hshow.log _ _ _ _).log _ _ _ _

theorem agree_start (h : Alike e d) (tree : IndexedTree) :
    Agree SameAnswer (e.start tree) (d.start tree) := by
  rw [start, start]
  rcases tree.tree.startNode with - | name
  · exact agree_refuse h _
  · exact agree_startAt h tree name

theorem agree_resumeAt (h : Alike e d) (tree : IndexedTree) (name : String) :
    Agree SameAnswer (e.resumeAt tree name) (d.resumeAt tree name) := by
  rw [resumeAt, resumeAt]
  rcases tree.node? name with - | node
  · exact agree_refuse h _
  · refine agree_carryOut ?_
    refine Agree.bind (agree_cancelPendingEnd h) fun e d h ↦ ?_
    exact (agree_announceNode (h.withActive _) tree node).log _ _ _ _

/-- Both engines have the same node on screen. -/
theorem activeNode_congr (h : Alike e d) : e.activeNode = d.activeNode := by
  rw [activeNode, activeNode, h.active]

/-- Taking a choice has the same answer, for the same choices are visible. -/
theorem agree_select (h : Alike e d) (index : Nat) :
    Agree SameAnswer (e.select index) (d.select index) := by
  rw [select, select, activeNode_congr h]
  rcases d.activeNode with err | ⟨tree, node⟩
  · exact agree_refuse h _
  · rw [h.world]
    refine Agree.after (fun visible ↦ ?_) _
    rcases visible[index]? with - | ⟨i, choice⟩
    · exact agree_refuse h _
    · exact agree_carryOut (agree_take h tree node choice index)

theorem agree_advance (h : Alike e d) : Agree SameAnswer e.advance d.advance := by
  rw [advance, advance, activeNode_congr h]
  rcases d.activeNode with err | ⟨tree, node⟩
  · exact agree_refuse h _
  · rw [h.world]
    refine Agree.after (fun visible ↦ ?_) _
    dsimp only
    split
    · exact agree_refuse h _
    · exact agree_carryOut (agree_leave h tree node)

/-- Whether a dialogue was running is answered alike. -/
theorem agree_forceEnd (h : Alike e d) : Agree SameAnswer e.forceEnd d.forceEnd := by
  rw [forceEnd, forceEnd, isActive, isActive, h.active]
  split
  · refine Agree.log ?_ _ _ _ _
    exact Agree.bind (agree_endDialogue h) fun _ _ h ↦ Agree.pure ⟨rfl, h⟩
  · exact (Agree.pure ⟨rfl, h⟩).log _ _ _ _

theorem agree_withStore (h : Alike e d) (change : Store → Told Change Store) :
    Agree Alike (e.withStore change) (d.withStore change) := by
  rw [withStore, withStore, h.world]
  exact Agree.after (fun _ ↦ Agree.pure ⟨rfl, h.active⟩) _

end Engine

end Storyline
