import Storyline.Proofs.Session.Run

/-!
# Loads that fail

Applying a snapshot fails in two ways. A snapshot of another tree, or one for which no tree is at
hand, is refused before anything is touched. But that the saved node is missing from the tree is
found out only when the dialogue has ended and the saved world has taken the place of the present
one, and neither is taken back (`Snapshot.Spent`).

`Snapshot.failed_apply` says what is left in each case, and when a failed load has changed nothing
after all: if it was refused at once, or if there was nothing to change.
-/

namespace Storyline

namespace Snapshot

variable {e : Engine} {s : Snapshot} {tree : Option IndexedTree}

/-- What is left of an engine by a load that fails late: the dialogue has ended, nothing waits,
and the variables and items are those of the snapshot. Only the clock and the timing stay. -/
structure Spent (s : Snapshot) (e e' : Engine) : Prop where
  active : e'.active = none
  still : e'.Still
  world : e'.world = s.worldOver e.world
  now : e'.now = e.now
  settings : e'.settings = e.settings

theorem spent_restoreWorld (he : e.Coherent) (s : Snapshot) :
    s.Spent e (s.restoreWorld e).value := by
  obtain ⟨schedule, hvalue, -, hlive, hnow⟩ := restoreWorld_spec he s
  rw [hvalue]
  exact ⟨rfl, ⟨rfl, hlive⟩, rfl, hnow, rfl⟩

/-- The two ways in which a load fails. -/
theorem apply_error_cases {err : ApplyError} (h : (s.apply e tree).value.1 = .error err) :
    s.position tree = .error err ∨
      ∃ t name, s.position tree = .ok (some (t, name)) ∧ t.node? name = none ∧
        err = .resume name (.nodeNotFound t.id name) := by
  rcases hposition : s.position tree with err' | - | ⟨t, name⟩
  · rw [apply_of_position_error hposition] at h
    cases h
    exact .inl rfl
  · rw [(apply_of_no_position hposition e).1] at h
    cases h
  · rcases hnode : t.node? name with - | node
    · rw [(apply_of_missing hposition hnode e).1] at h
      cases h
      exact .inr ⟨t, name, rfl, hnode, rfl⟩
    · rw [(apply_of_found hposition hnode e).1] at h
      cases h

/-- Over an idle engine, restoring changes the world and nothing else. -/
theorem restoreWorld_of_idle (hidle : e.active = none) (s : Snapshot) :
    (s.restoreWorld e).value = { e with world := s.worldOver e.world } := by
  have hinactive : e.isActive = false := by rw [Engine.isActive, hidle, Option.isSome_none]
  rw [restoreWorld, Engine.forceEnd, hinactive]
  rfl

/-- Restoring changes nothing, and announces nothing, if no dialogue runs, the store is empty,
nothing was saved of another one, and the items are the saved ones. -/
theorem restoreWorld_unchanged_iff (he : e.Coherent) (s : Snapshot) :
    (s.restoreWorld e).value = e ∧ (s.restoreWorld e).notices = [] ↔
      e.active = none ∧ e.world.store.contents = {} ∧
        s.store.settle e.world.store.rules = {} ∧ s.inventory = e.world.inventory := by
  rw [notices_restoreWorld he, List.append_eq_nil_iff, List.map_eq_nil_iff,
    Store.replacementChanges_eq_nil_iff e.world.store.rules]
  have hspent := spent_restoreWorld he s
  constructor
  · -- an engine that is left as it was has the saved world, and no dialogue
    rintro ⟨hsame, -, hcontents, hsaved⟩
    rw [hsame] at hspent
    exact ⟨hspent.active, hcontents, hsaved, (congrArg World.inventory hspent.world).symm⟩
  · rintro ⟨hidle, hcontents, hsaved, hitems⟩
    have hworld : s.worldOver e.world = e.world := by rw [worldOver, hsaved, hitems, ← hcontents]
    refine ⟨?_, by rw [hidle]; rfl, hcontents, hsaved⟩
    rw [restoreWorld_of_idle hidle, hworld]

/-- What a load that fails does in a session. It is refused at once, in silence, and the engine
stays as it is. Or the saved node is missing from the tree: then the dialogue has ended and the
world is the saved one, all of which has been announced, and the engine is as before only if there
was nothing to end or replace. -/
theorem failed_apply (x : Session) (s : Snapshot) (tree : Option IndexedTree) {err : ApplyError}
    (h : (s.apply x.engine tree).value.1 = .error err) :
    (s.position tree = .error err ∧ (s.apply x.engine tree).value.2 = x.engine ∧
        (s.apply x.engine tree).notices = []) ∨
      ∃ t name, s.position tree = .ok (some (t, name)) ∧ t.node? name = none ∧
        err = .resume name (.nodeNotFound t.id name) ∧
        s.Spent x.engine (s.apply x.engine tree).value.2 ∧
        (s.apply x.engine tree).notices =
          (if x.engine.isActive then [.event .ended] else []) ++
            (Store.replacementChanges x.engine.world.store.contents s.store
              (s.worldOver x.engine.world).store).map .change ∧
        ((s.apply x.engine tree).value.2 = x.engine ∧ (s.apply x.engine tree).notices = [] ↔
          x.engine.active = none ∧ x.engine.world.store.contents = {} ∧
            s.store.settle x.engine.world.store.rules = {} ∧
            s.inventory = x.engine.world.inventory) := by
  rcases apply_error_cases h with hposition | ⟨t, name, hposition, hmissing, herr⟩
  · rw [apply_of_position_error hposition]
    exact .inl ⟨hposition, rfl, rfl⟩
  · obtain ⟨hvalue, hnotices⟩ := apply_of_missing hposition hmissing x.engine
    rw [hvalue, hnotices]
    exact .inr ⟨t, name, hposition, hmissing, herr, spent_restoreWorld x.coherent s,
      notices_restoreWorld x.coherent s, restoreWorld_unchanged_iff x.coherent s⟩

/-- A snapshot of the house, in a room that is not there. -/
def cellar : Snapshot where
  version := engineVersion
  treeId := some "house"
  nodeId := some "cellar"

/-- The load of the cellar while the door is on screen. -/
theorem failed_apply_cellar :
    (cellar.apply (Session.engine { ops := [.start doorTree] }) (some doorTree)).value.1 =
        .error (.resume "cellar" (.nodeNotFound "house" "cellar")) ∧
      cellar.Spent (Session.engine { ops := [.start doorTree] })
        (cellar.apply (Session.engine { ops := [.start doorTree] }) (some doorTree)).value.2 := by
  refine ⟨rfl, ?_⟩
  rcases failed_apply { ops := [.start doorTree] } cellar (some doorTree) rfl with
    ⟨hrefused, -⟩ | ⟨t, name, -, -, -, hspent, -⟩
  · cases hrefused
  · exact hspent

/-- A load that fails does not leave every engine as it was. -/
theorem not_unchanged_of_failed_apply :
    ¬ ∀ (x : Session) (s : Snapshot) (tree : Option IndexedTree) (err : ApplyError),
      (s.apply x.engine tree).value.1 = .error err →
        (s.apply x.engine tree).value.2 = x.engine ∧ (s.apply x.engine tree).notices = [] := by
  intro h
  have hended : (cellar.apply (Session.engine { ops := [.start doorTree] })
      (some doorTree)).value.2.isActive = false := by
    decide +kernel
  rw [(h { ops := [.start doorTree] } cellar (some doorTree) _ rfl).1] at hended
  revert hended
  decide +kernel

end Snapshot

end Storyline
