import Storyline.Proofs.Dialogue.Outcome
import Storyline.Proofs.Store.Replacement
import Storyline.Saved.Snapshot

/-!
# Putting a snapshot back

Applying a snapshot has three parts: its position is looked for (`Snapshot.position`), the world
is restored (`Snapshot.restoreWorld_spec`), and the saved node is shown. The first part refuses
without touching the engine; a node that is missing from the tree comes to light only in the
third, when the dialogue has ended and the world has been replaced (`Snapshot.apply_of_missing`).
-/

namespace Storyline

namespace Engine

variable {e : Engine}

/-- Ending a dialogue at once, whether or not one is running. -/
theorem forceEnd_spec (he : e.Coherent) :
    ∃ schedule : Schedule String,
      e.forceEnd.value.2 = { e with schedule, pendingEnd := none, active := none } ∧
        schedule.Sound ∧ schedule.live = [] ∧ schedule.now = e.now := by
  rcases hactive : e.active with - | a
  · -- an idle engine is passed over, and its timer with it; but nothing waits there
    obtain ⟨hpending, hlive⟩ := he.still_of_idle hactive
    have hidle : e.isActive = false := by rw [isActive, hactive, Option.isSome_none]
    refine ⟨e.schedule, ?_, he.schedule, hlive, rfl⟩
    rw [forceEnd, hidle, ← hactive, ← hpending]
    rfl
  · have hrunning : e.isActive = true := by rw [isActive, hactive, Option.isSome_some]
    rw [forceEnd, hrunning]
    exact endDialogue_spec he.schedule he.timed

/-- Ending a dialogue by force announces its end if one was running. -/
theorem notices_forceEnd (e : Engine) :
    e.forceEnd.notices = if e.active.isSome then [.event .ended] else [] := by
  rw [forceEnd, isActive]
  rcases hactive : e.active with - | a
  · rfl
  · simp [notices_endDialogue, hactive]

theorem writes_forceEnd (e : Engine) : e.WritesTo e.forceEnd.notices e.forceEnd.value.2 := by
  rw [forceEnd]
  split
  · simp only [Told.notices_bind, Told.notices_log, Told.notices_pure, Told.value_bind,
      Told.value_pure, List.nil_append, List.append_nil]
    exact e.writes_endDialogue
  · exact .nil _

end Engine

namespace Snapshot

variable {e : Engine}

/-- The world of a snapshot, restored over another one. -/
def worldOver (s : Snapshot) (w : World) : World where
  store := { w.store with contents := s.store.settle w.store.rules }
  inventory := s.inventory

/-- Restoring ends the dialogue and takes over the saved world. The clock goes on. -/
theorem restoreWorld_spec (he : e.Coherent) (s : Snapshot) :
    ∃ schedule : Schedule String,
      (s.restoreWorld e).value =
          { e with world := s.worldOver e.world, schedule, pendingEnd := none, active := none } ∧
        schedule.Sound ∧ schedule.live = [] ∧ schedule.now = e.now := by
  obtain ⟨schedule, hvalue, hspec⟩ := Engine.forceEnd_spec he
  refine ⟨schedule, ?_, hspec⟩
  rw [restoreWorld]
  simp only [Told.value_bind, hvalue]
  rfl

/-- Putting back values and items announces the end of the dialogue that ran, and then the
replacement of the store. -/
theorem notices_restoreWorld (he : e.Coherent) (s : Snapshot) :
    (s.restoreWorld e).notices =
      (if e.active.isSome then [.event .ended] else []) ++
        (Store.replacementChanges e.world.store.contents s.store
          (s.worldOver e.world).store).map .change := by
  obtain ⟨schedule, hvalue, -⟩ := Engine.forceEnd_spec he
  rw [restoreWorld]
  simp only [Told.notices_bind, Told.notices_pure, hvalue, Engine.notices_forceEnd, List.append_nil]
  simp [Engine.withStore, Store.notices_restore, worldOver]

/-- Once values and items are put back, no dialogue runs and nothing waits. -/
theorem moved_restoreWorld (he : e.Coherent) (s : Snapshot) :
    Engine.Moved (s.restoreWorld e).notices (s.restoreWorld e).value ∧
      (s.restoreWorld e).value.schedule.Sound := by
  obtain ⟨schedule, hvalue, hsound, hlive, -⟩ := restoreWorld_spec he s
  rw [hvalue]
  exact ⟨.ended rfl ⟨rfl, hlive⟩, hsound⟩

/-! ### The ways an application goes -/

/-- A snapshot whose position does not fit the tree is refused before anything changes. -/
theorem apply_of_position_error {s : Snapshot} {tree : Option IndexedTree} {err : ApplyError}
    (h : s.position tree = .error err) (e : Engine) : s.apply e tree = pure (.error err, e) := by
  rw [apply, h]

/-- A snapshot without a position puts back values and items only. -/
theorem apply_of_no_position {s : Snapshot} {tree : Option IndexedTree}
    (h : s.position tree = .ok none) (e : Engine) :
    (s.apply e tree).value = (.ok (), (s.restoreWorld e).value) ∧
      (s.apply e tree).notices = (s.restoreWorld e).notices := by
  rw [apply, h]
  simp

/-- A saved node that is looked for is resumed at in the restored world. -/
theorem apply_of_position {s : Snapshot} {tree : Option IndexedTree} {t : IndexedTree}
    {name : String} (h : s.position tree = .ok (some (t, name))) (e : Engine) :
    (s.apply e tree).value =
        (((s.restoreWorld e).value.resumeAt t name).value.1.mapError (.resume name),
          ((s.restoreWorld e).value.resumeAt t name).value.2) ∧
      (s.apply e tree).notices =
        (s.restoreWorld e).notices ++ ((s.restoreWorld e).value.resumeAt t name).notices := by
  rw [apply, h]
  simp

/-- A snapshot whose node is missing is refused once values and items are put back. -/
theorem apply_of_missing {s : Snapshot} {tree : Option IndexedTree} {t : IndexedTree}
    {name : String} (h : s.position tree = .ok (some (t, name))) (hmissing : t.node? name = none)
    (e : Engine) :
    (s.apply e tree).value =
        (.error (.resume name (.nodeNotFound t.id name)), (s.restoreWorld e).value) ∧
      (s.apply e tree).notices = (s.restoreWorld e).notices := by
  obtain ⟨hvalue, hnotices⟩ := apply_of_position h e
  rcases (s.restoreWorld e).value.resumeAt_cases t name with ⟨-, hrefused⟩ | ⟨node, hnode, -⟩
  · rw [hvalue, hnotices, hrefused.value, hrefused.notices, List.append_nil]
    exact ⟨rfl, rfl⟩
  · simp [hmissing] at hnode

/-- A snapshot whose node is found puts back values and items, and resumes there. -/
theorem apply_of_found {s : Snapshot} {tree : Option IndexedTree} {t : IndexedTree}
    {name : String} {node : Node} (h : s.position tree = .ok (some (t, name)))
    (hfound : t.node? name = some node) (e : Engine) :
    (s.apply e tree).value = (.ok (), ((s.restoreWorld e).value.resume t node).value) ∧
      (s.apply e tree).notices =
        (s.restoreWorld e).notices ++ ((s.restoreWorld e).value.resume t node).notices := by
  obtain ⟨hvalue, hnotices⟩ := apply_of_position h e
  rcases (s.restoreWorld e).value.resumeAt_cases t name with ⟨hnone, -⟩ | ⟨node', hnode, hdone⟩
  · simp [hfound] at hnone
  · obtain rfl : node' = node := Option.some.inj (hnode.symm.trans hfound)
    rw [hvalue, hnotices, hdone.value, hdone.notices]
    exact ⟨rfl, rfl⟩

/-! ### What becomes of the engine -/

/-- What becomes of putting back a snapshot. -/
theorem outcome_apply (host : Bool) (he : e.Coherent) (s : Snapshot) (tree : Option IndexedTree) :
    Engine.Outcome host e (s.apply e tree).notices (s.apply e tree).value.2 ∧
      (s.apply e tree).value.2.schedule.Sound := by
  obtain ⟨hmoved, hsound⟩ := moved_restoreWorld he s
  rcases hposition : s.position tree with err | - | ⟨t, name⟩
  · rw [apply_of_position_error hposition]
    exact ⟨Engine.outcome_refl host e, he.schedule⟩
  · obtain ⟨hvalue, hnotices⟩ := apply_of_no_position hposition e
    rw [hvalue, hnotices]
    exact ⟨.moved hmoved, hsound⟩
  · obtain ⟨hvalue, hnotices⟩ := apply_of_position hposition e
    -- the dialogue has ended by then, and the host wrote nothing in between
    have hcoherent := hmoved.coherent hsound
    obtain ⟨houtcome, hsound'⟩ := Engine.outcome_resumeAt false hcoherent.schedule hcoherent.timed
      t name
    rw [hvalue, hnotices]
    exact ⟨.moved (hmoved.andThen houtcome), hsound'⟩

/-- Putting back values and items announces what it writes. -/
theorem writes_restoreWorld (s : Snapshot) (e : Engine) :
    e.WritesTo (s.restoreWorld e).notices (s.restoreWorld e).value := by
  simp only [restoreWorld, Told.value_bind, Told.notices_bind, Told.value_pure, Told.notices_pure,
    List.append_nil]
  exact e.writes_forceEnd.trans (e.forceEnd.value.2.writes_withStore (.restore s.store))

theorem writes_apply (s : Snapshot) (e : Engine) (tree : Option IndexedTree) :
    e.WritesTo (s.apply e tree).notices (s.apply e tree).value.2 := by
  rcases hposition : s.position tree with err | - | ⟨t, name⟩
  · rw [apply_of_position_error hposition]
    exact .nil _
  · obtain ⟨hvalue, hnotices⟩ := apply_of_no_position hposition e
    rw [hvalue, hnotices]
    exact s.writes_restoreWorld e
  · obtain ⟨hvalue, hnotices⟩ := apply_of_position hposition e
    rw [hvalue, hnotices]
    exact (s.writes_restoreWorld e).trans (Engine.writes_resumeAt _ t name)

end Snapshot

end Storyline
