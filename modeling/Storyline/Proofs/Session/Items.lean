import Storyline.Proofs.Dialogue.Granting
import Storyline.Proofs.Session.Run

/-!
# Items held once

A session that begins without items never holds an item twice. What could bring one in a second
time is a snapshot, for its items are taken over as they stand; so the snapshots that are put back
have to come from sessions of the same kind (`Session.EmptyHanded`). Of a single operation it is
enough that the snapshot, if it puts one back, does not hold an item twice
(`Engine.distinct_perform`). The rest is induction over how the session came about, in which a
snapshot has the items of a session that came about before (`Session.EmptyHanded.distinct`).
-/

namespace Storyline

/-- Putting a snapshot back leaves the items as they are, or takes over its own. -/
theorem Snapshot.inventory_apply {e : Engine} (he : e.Coherent) (s : Snapshot)
    (tree : Option IndexedTree) :
    (s.apply e tree).value.2.world.inventory = e.world.inventory ∨
      (s.apply e tree).value.2.world.inventory = s.inventory := by
  obtain ⟨schedule, hrestored, -⟩ := restoreWorld_spec he s
  have hrestoredItems : (s.restoreWorld e).value.world.inventory = s.inventory := by
    rw [hrestored]
    rfl
  rcases hposition : s.position tree with err | - | ⟨t, name⟩
  · rw [apply_of_position_error hposition]
    exact .inl rfl
  · rw [(apply_of_no_position hposition e).1]
    exact .inr hrestoredItems
  · rcases hnode : t.node? name with - | node
    · rw [(apply_of_missing hposition hnode e).1]
      exact .inr hrestoredItems
    · rw [(apply_of_found hposition hnode e).1, (Engine.resume_spec _ t node).2.1]
      exact .inr hrestoredItems

namespace Engine

variable {e : Engine}

/-- No operation makes an item be held twice, unless it puts back a snapshot that holds one
twice. -/
theorem distinct_perform (he : e.Coherent) (h : e.world.inventory.Distinct) {op : Operation}
    (hsaved : ∀ s tree, op = .apply s tree → s.inventory.Distinct) :
    (e.perform op).value.2.world.inventory.Distinct := by
  cases op with
  | start tree => exact (e.grants_start tree).distinct h
  | startAt tree node => exact (e.grants_startAt tree node).distinct h
  | resumeAt tree node => exact (e.grants_resumeAt tree node).distinct h
  | select index => exact (e.grants_select index).distinct h
  | advance => exact e.grants_advance.distinct h
  | forceEnd => exact e.grants_forceEnd.distinct h
  | update elapsed => exact (grants_update he elapsed).distinct h
  | write w => exact h
  | addItem item =>
    rw [perform, Told.value_bind, Inventory.value_add]
    exact h.including item
  | removeItem item => exact h.remove item
  | run command => exact (e.world.grants_run command).distinct h
  | apply s tree =>
    rw [(e.perform_apply s tree).1]
    rcases s.inventory_apply he tree with hsame | hitems
    · rwa [hsame]
    · rw [hitems]
      exact hsaved s tree rfl

end Engine

namespace Session

/-- A session that goes on with an operation. -/
def andThen (x : Session) (op : Operation) : Session := { x with ops := x.ops ++ [op] }

theorem engine_andThen (x : Session) (op : Operation) :
    (x.andThen op).engine = (x.engine.perform op).value.2 :=
  Engine.after_append x.start x.ops [op]

/-- A session that began without items. What is put back in it was captured from such a session. -/
inductive EmptyHanded : Session → Prop
  /-- Nothing has been asked of the engine, and there are no items. -/
  | begun (seeds : Seeds) (settings : Settings) : EmptyHanded { seeds, settings }
  /-- The session goes on, but not with a snapshot. -/
  | andThen {x : Session} (op : Operation) (before : EmptyHanded x)
      (unsaved : ∀ s tree, op ≠ .apply s tree) : EmptyHanded (x.andThen op)
  /-- A snapshot of another session, or of an earlier state of the same one, is put back. -/
  | restored {x y : Session} (tree : Option IndexedTree) (before : EmptyHanded x)
      (saved : EmptyHanded y) : EmptyHanded (x.andThen (.apply (.capture y.engine) tree))

/-- In every state of such a session, no item is held twice. -/
theorem EmptyHanded.distinct {x : Session} (h : x.EmptyHanded) :
    x.engine.world.inventory.Distinct := by
  induction h with
  | begun seeds settings => exact Inventory.distinct_empty
  | @andThen x op _ unsaved ih =>
    rw [engine_andThen]
    exact Engine.distinct_perform x.coherent ih fun s tree hop ↦ absurd hop (unsaved s tree)
  | @restored x y tree _ _ ih ihSaved =>
    rw [engine_andThen]
    refine Engine.distinct_perform x.coherent ih fun s t hop ↦ ?_
    cases hop
    exact ihSaved

/-- In a session that began without items, no item is held twice, whatever the case of its letters.
Granting an item appends it, unless it is held. Taking away an item that is held removes its one
entry and leaves the others in order; an item that is not held was not there to take away. Either
way it is not held afterwards. -/
theorem EmptyHanded.items_once {x : Session} (h : x.EmptyHanded) (item : String) :
    let inv := x.engine.world.inventory
    let granted := (x.engine.perform (.addItem item)).value.2.world.inventory
    let removed := (x.engine.perform (.removeItem item)).value
    (inv.items.Pairwise fun held later ↦ Text.sameText held later = false) ∧
      ((∃ held ∈ inv.items, Text.sameText held item = true) →
        granted = inv ∧ removed.1 = .found true ∧
          ∃ before held after, inv.items = before ++ held :: after ∧
            Text.sameText held item = true ∧
            removed.2.world.inventory.items = before ++ after) ∧
      ((∀ held ∈ inv.items, Text.sameText held item = false) →
        granted.items = inv.items ++ [item] ∧ removed.1 = .found false ∧
          removed.2.world.inventory = inv) ∧
      removed.2.world.inventory.contains item = false := by
  intro inv granted removed
  have hdistinct : inv.Distinct := h.distinct
  have hgranted : granted = inv.including item := inv.value_add item
  have hanswer : removed.1 = .found (inv.remove item).1 := rfl
  have hleft : removed.2.world.inventory = (inv.remove item).2 := rfl
  rw [hgranted, hanswer, hleft, ← Inventory.contains_iff, ← Inventory.contains_eq_false_iff]
  refine ⟨hdistinct, fun hheld ↦ ?_, fun hheld ↦ ?_, ?_⟩
  · obtain ⟨before, held, after, hitems, hsame, hremoved, -⟩ := hdistinct.remove_spec hheld
    rw [hremoved]
    exact ⟨Inventory.including_of_contains hheld, rfl, before, held, after, hitems, hsame, rfl⟩
  · rw [Inventory.remove_of_not_contains hheld]
    exact ⟨Inventory.items_including_of_not_contains hheld, rfl, rfl⟩
  · rcases hheld : inv.contains item with - | -
    · rwa [Inventory.remove_of_not_contains hheld]
    · obtain ⟨before, held, after, -, -, hremoved, hgone⟩ := hdistinct.remove_spec hheld
      rwa [hremoved]

/-- A session in which two items are granted, by the host and by a command. -/
def packed : Session := (andThen {} (.addItem "Lantern")).andThen (.run "item:rope")

/-- Another one that is put back into the state of the first. -/
def repacked : Session :=
  (andThen {} (.addItem "LANTERN")).andThen (.apply (.capture packed.engine) none)

/-- The lantern is held under its saved name, is not granted again, and is gone once it has been
taken away. -/
theorem items_once_repacked :
    repacked.EmptyHanded ∧
      (∃ held ∈ repacked.engine.world.inventory.items, Text.sameText held "lantern" = true) ∧
      (repacked.engine.perform (.addItem "lantern")).value.2.world.inventory =
        ⟨["Lantern", "rope"]⟩ ∧
      (repacked.engine.perform (.removeItem "lantern")).value.1 = .found true ∧
      (repacked.engine.perform
        (.removeItem "lantern")).value.2.world.inventory.contains "lantern" = false := by
  have hempty : repacked.EmptyHanded :=
    .restored none (.andThen _ (.begun {} {}) nofun)
      (.andThen _ (.andThen _ (.begun {} {}) nofun) nofun)
  have hitems : repacked.engine.world.inventory = ⟨["Lantern", "rope"]⟩ := by decide +kernel
  have hheld : ∃ held ∈ repacked.engine.world.inventory.items,
      Text.sameText held "lantern" = true := by
    rw [hitems]
    exact ⟨"Lantern", List.mem_cons_self, by decide⟩
  obtain ⟨-, hknown, -, hgone⟩ := hempty.items_once "lantern"
  obtain ⟨hgranted, hfound, -⟩ := hknown hheld
  exact ⟨hempty, hheld, hgranted.trans hitems, hfound, hgone⟩

end Session

end Storyline
