import Storyline.Proofs.Dialogue.Alike
import Storyline.Proofs.Session.Run

/-!
# A saved session goes on as if it had not been left

Captured from one session and applied in another one with the same seeds, a snapshot gives an
engine that is alike the one it was captured from (`Snapshot.alike_apply_capture`): the values
that a store keeps settle to themselves, and the saved node is found under its name. As long as no
time passes, nothing that is asked of the two engines tells them apart
(`Snapshot.capture_transparent`).
-/

namespace Storyline

/-- Whether an operation lets time pass. -/
def Operation.isUpdate : Operation → Bool
  | .update _ => true
  | _ => false

open Told

/-! ### Engines that are alike -/

namespace Snapshot

variable {e d : Engine}

/-- Engines that are alike have the same snapshot. -/
theorem capture_congr (h : e.Alike d) : capture e = capture d := by
  rw [capture, capture, h.world, h.active]

/-- Putting back values and items does the same to engines that are alike. -/
theorem agree_restoreWorld (h : e.Alike d) (s : Snapshot) :
    Agree Engine.Alike (s.restoreWorld e) (s.restoreWorld d) := by
  refine Agree.bind (Engine.agree_forceEnd h) fun p q h ↦ ?_
  refine Agree.bind (Engine.agree_withStore h.2 _) fun e d h ↦ ?_
  exact Agree.pure ⟨by rw [Engine.withInventory, Engine.withInventory, h.world], h.active⟩

theorem agree_apply (h : e.Alike d) (s : Snapshot) (tree : Option IndexedTree) :
    Agree Engine.SameAnswer (s.apply e tree) (s.apply d tree) := by
  rw [apply, apply]
  rcases s.position tree with err | - | ⟨t, name⟩
  · exact Agree.pure ⟨rfl, h⟩
  · exact Agree.bind (agree_restoreWorld h s) fun _ _ h ↦ Agree.pure ⟨rfl, h⟩
  · refine Agree.bind (agree_restoreWorld h s) fun e d h ↦ ?_
    refine Agree.bind (Engine.agree_resumeAt h t name) fun p q h ↦ ?_
    exact Agree.pure ⟨congrArg (Except.mapError (ApplyError.resume name)) h.1, h.2⟩

end Snapshot

namespace Engine

variable {e d : Engine}

/-- The reply to a call is the same on engines that are alike. -/
theorem agree_reply {x y : Told Notice (Except DialogueError Unit × Engine)}
    (h : Agree SameAnswer x y) :
    Agree SameAnswer (do let (answer, e) ← x; pure (Reply.ofCall answer, e))
      (do let (answer, e) ← y; pure (Reply.ofCall answer, e)) :=
  Agree.bind h fun _ _ h ↦ Agree.pure ⟨congrArg Reply.ofCall h.1, h.2⟩

/-- Unless time passes, an operation does the same on engines that are alike. -/
theorem agree_perform (h : e.Alike d) {op : Operation} (hop : op.isUpdate = false) :
    Agree SameAnswer (e.perform op) (d.perform op) := by
  cases op with
  | start tree => exact agree_reply (agree_start h tree)
  | startAt tree node => exact agree_reply (agree_startAt h tree node)
  | resumeAt tree node => exact agree_reply (agree_resumeAt h tree node)
  | select index => exact agree_reply (agree_select h index)
  | advance => exact agree_reply (agree_advance h)
  | forceEnd =>
    exact Agree.bind (agree_forceEnd h) fun _ _ h ↦ Agree.pure ⟨congrArg Reply.found h.1, h.2⟩
  | update elapsed => cases hop
  | write w => exact Agree.bind (agree_withStore h _) fun _ _ h ↦ Agree.pure ⟨rfl, h⟩
  | addItem item =>
    rw [perform, perform, h.world]
    exact Agree.after (fun _ ↦ Agree.pure ⟨rfl, by rw [withInventory, withInventory, h.world],
      h.active⟩) _
  | removeItem item =>
    rw [perform, perform, h.world]
    exact Agree.pure ⟨rfl, by rw [withInventory, withInventory, h.world], h.active⟩
  | run command =>
    rw [perform, perform, h.world]
    exact Agree.after (fun _ ↦ Agree.pure ⟨rfl, rfl, h.active⟩) _
  | apply s tree =>
    refine Agree.bind (Snapshot.agree_apply h s tree) fun p q h ↦ ?_
    obtain ⟨answer, e⟩ := p
    obtain ⟨answer', d⟩ := q
    obtain ⟨rfl, h⟩ : answer = answer' ∧ e.Alike d := h
    rcases answer with err | - <;> exact Agree.pure ⟨rfl, h⟩

/-! ### What can be seen of a run -/

/-- What can be seen of an operation: the reply, what was announced, and what a snapshot then
holds. -/
structure Observation where
  /-- The reply. -/
  reply : Reply
  /-- What was announced, to listeners of the store and of the dialogue. -/
  notices : List Notice
  /-- The snapshot of the engine afterwards. -/
  saved : Snapshot
  deriving DecidableEq

/-- What can be seen of a run, operation by operation. -/
def observe (e : Engine) : List Operation → List Observation
  | [] => []
  | op :: ops =>
    ⟨(e.perform op).value.1, (e.perform op).notices, .capture (e.perform op).value.2⟩ ::
      observe (e.perform op).value.2 ops

/-- Engines that are alike are observed alike, as long as the clock does not move. -/
theorem observe_congr (h : e.Alike d) {ops : List Operation}
    (hops : ∀ op ∈ ops, op.isUpdate = false) : e.observe ops = d.observe ops := by
  induction ops generalizing e d with
  | nil => rfl
  | cons op ops ih =>
    obtain ⟨hop, hops⟩ := List.forall_mem_cons.mp hops
    have hagree := agree_perform h hop
    obtain ⟨hreply, halike⟩ := hagree.value
    rw [observe, observe, hreply, hagree.notices, Snapshot.capture_congr halike, ih halike hops]

end Engine

/-! ### Captured and applied -/

namespace Snapshot

/-- A captured world is restored as it was over any store of the same seeds. -/
theorem worldOver_capture {e : Engine} {w : World} {seeds : Seeds}
    (he : e.world.store.From seeds) (hw : w.store.From seeds) :
    (capture e).worldOver w = e.world := by
  have hrules : w.store.rules = e.world.store.rules := hw.rules_eq.trans he.rules_eq.symm
  have hseeds : w.store.seeds = e.world.store.seeds := hw.seeds_eq.trans he.seeds_eq.symm
  show (⟨⟨e.world.store.contents.settle w.store.rules, w.store.seeds, w.store.rules⟩,
    e.world.inventory⟩ : World) = e.world
  rw [hrules, hseeds, Contents.settle_of_kept he.kept]

variable {e d : Engine} {seeds : Seeds} {tree : Option IndexedTree}

/-- A snapshot of an idle engine is taken at no position. -/
theorem position_capture_of_idle (hidle : e.active = none) (tree : Option IndexedTree) :
    (capture e).position tree = .ok none := by
  rw [capture, hidle]
  rfl

/-- A snapshot is taken at the node on screen. -/
theorem position_capture_of_active {a : ActiveNode} (ha : e.active = some a) :
    (capture e).position (some a.tree) = .ok (some (a.tree, a.nodeId)) := by
  rw [capture, ha]
  exact if_pos (Text.sameText_refl a.tree.id)

/-- A captured engine and one that the snapshot is applied to are alike. -/
theorem alike_apply_capture (he : e.Coherent) (hseeds : e.world.store.From seeds)
    (hd : d.Coherent) (hseeds' : d.world.store.From seeds)
    (htree : ∀ t, e.currentTree? = some t → tree = some t) :
    ((capture e).apply d tree).value.1 = .ok () ∧
      ((capture e).apply d tree).value.2.Alike e := by
  obtain ⟨schedule, hrestored, -⟩ := restoreWorld_spec hd (capture e)
  -- the restored world is the captured one; the node on screen remains to be compared
  rw [worldOver_capture hseeds hseeds'] at hrestored
  rcases hactive : e.active with - | a
  · obtain ⟨hvalue, -⟩ := apply_of_no_position (position_capture_of_idle hactive tree) d
    rw [hvalue, hrestored]
    exact ⟨rfl, rfl, hactive.symm⟩
  · obtain ⟨node, hfound, hid⟩ := he.active a hactive
    obtain rfl : tree = some a.tree := htree a.tree (by rw [Engine.currentTree?, hactive]; rfl)
    obtain ⟨hresumed, hworld, -⟩ := ((capture e).restoreWorld d).value.resume_spec a.tree node
    rw [(apply_of_found (position_capture_of_active hactive) hfound d).1]
    refine ⟨rfl, ?_, ?_⟩
    · rw [hworld, hrestored]
    · rw [hresumed, hid, hactive]

/-- A session that is captured and put back goes on as if it had not been left: whatever engine of
the same seeds takes it over, in the tree that was being played, the load succeeds, a snapshot of
the result is the one that was loaded, and as long as no time passes the replies, the notices and
the later snapshots are those of the session that was left. -/
theorem capture_transparent (x y : Session) (hseeds : y.seeds = x.seeds) (tree : Option IndexedTree)
    (htree : ∀ t, x.engine.currentTree? = some t → tree = some t) :
    ((capture x.engine).apply y.engine tree).value.1 = .ok () ∧
      capture ((capture x.engine).apply y.engine tree).value.2 = capture x.engine ∧
      ∀ ops : List Operation, (∀ op ∈ ops, op.isUpdate = false) →
        ((capture x.engine).apply y.engine tree).value.2.observe ops = x.engine.observe ops := by
  have hfrom := y.from_seeds
  rw [hseeds] at hfrom
  obtain ⟨hdone, halike⟩ := alike_apply_capture x.coherent x.from_seeds y.coherent hfrom htree
  exact ⟨hdone, capture_congr halike, fun ops hops ↦ Engine.observe_congr halike hops⟩

/-- The door is captured when it is on screen and put back into a new game, where it is then
opened. -/
theorem capture_transparent_door :
    (∀ t, (Session.engine { ops := [.start doorTree] }).currentTree? = some t →
        some doorTree = some t) ∧
      ((capture (Session.engine { ops := [.start doorTree] })).apply (Session.engine {})
        (some doorTree)).value.1 = .ok () ∧
      ((capture (Session.engine { ops := [.start doorTree] })).apply (Session.engine {})
          (some doorTree)).value.2.observe [.write (.setBool "open" true), .select 0] =
        (Session.engine { ops := [.start doorTree] }).observe
          [.write (.setBool "open" true), .select 0] := by
  have hcurrent : (Session.engine { ops := [.start doorTree] }).currentTree? = some doorTree := by
    decide +kernel
  have htree : ∀ t, (Session.engine { ops := [.start doorTree] }).currentTree? = some t →
      some doorTree = some t := fun t ht ↦ hcurrent.symm.trans ht
  obtain ⟨hdone, -, hobserve⟩ :=
    capture_transparent { ops := [.start doorTree] } {} rfl (some doorTree) htree
  exact ⟨htree, hdone, hobserve _ (by decide)⟩

end Snapshot

end Storyline
