import Storyline.Proofs.Dialogue.Mended
import Storyline.Proofs.Session.Run

/-!
# Sessions without broken content

Whether a tree is played with its broken content or without it cannot be told from a session. An
operation on mended trees is an echo of the operation itself (`Engine.echo_perform`), so each step
of a run with mended trees shows what the step of the run itself does (`Engine.sights_mended`).

Trees that are the same once they are mended may therefore stand for one another
(`Session.sights_mapTree`). `Session.sights_of_mended` says this of a tree and its mended form.
-/

namespace Storyline

/-! ### Operations on other trees -/

/-- The operation with a function applied to the trees that it names. -/
def Operation.mapTree (f : IndexedTree → IndexedTree) : Operation → Operation
  | .start tree => .start (f tree)
  | .startAt tree node => .startAt (f tree) node
  | .resumeAt tree node => .resumeAt (f tree) node
  | .apply snapshot tree => .apply snapshot (tree.map f)
  | op => op

theorem Operation.mapTree_mapTree (f g : IndexedTree → IndexedTree) (op : Operation) :
    (op.mapTree f).mapTree g = op.mapTree fun t ↦ g (f t) := by
  cases op with
  | apply snapshot tree => exact congrArg (Operation.apply snapshot) (Option.map_map g f tree)
  | _ => rfl

namespace Engine

variable (e : Engine)

/-- An operation on mended trees does what the operation does, and leaves the mended engine. -/
theorem echo_perform (op : Operation) :
    Echo mendedAnswer (e.perform op) (e.mended.perform (op.mapTree IndexedTree.mended)) := by
  cases op with
  | start tree => exact (e.echo_start tree).bind fun _ ↦ .pure rfl
  | startAt tree node => exact (e.echo_startAt tree node).bind fun _ ↦ .pure rfl
  | resumeAt tree node => exact (e.echo_resumeAt tree node).bind fun _ ↦ .pure rfl
  | select index => exact (e.echo_select index).bind fun _ ↦ .pure rfl
  | advance => exact e.echo_advance.bind fun _ ↦ .pure rfl
  | forceEnd => exact e.echo_forceEnd.bind fun _ ↦ .pure rfl
  | update elapsed => exact (e.echo_update elapsed).bind fun _ ↦ .pure rfl
  | write w => exact (e.echo_withStore _).bind fun _ ↦ .pure rfl
  | addItem item => exact .chain rfl (.pure rfl)
  | removeItem item => exact .pure rfl
  | run command => exact .chain rfl (.pure rfl)
  | apply snapshot tree =>
    refine (snapshot.echo_apply e tree).bind fun p ↦ ?_
    obtain ⟨err | -, d⟩ := p
    · exact .pure rfl
    · exact .pure rfl

/-! ### What can be seen of a run -/

/-- What can be seen of an operation: its reply, what was announced, and how things stand then. -/
structure Sight where
  /-- The reply. -/
  reply : Reply
  /-- What was announced, of content only what mending leaves as it is. -/
  notices : List Notice
  /-- The variables and the items. -/
  world : World
  /-- The name of the node on screen. -/
  nodeId : Option String
  /-- Whether the node is about to close itself. -/
  pendingAutoEnd : Bool
  /-- How long that takes. -/
  timeToEnd : Duration

/-- What can be seen of an operation that was carried out. -/
def sight (step : Told Notice (Reply × Engine)) : Sight where
  reply := step.value.1
  notices := step.notices.map Notice.bare
  world := step.value.2.world
  nodeId := step.value.2.currentNode?.map (·.id)
  pendingAutoEnd := step.value.2.pendingAutoEnd
  timeToEnd := step.value.2.timeToEnd

/-- What can be seen of operations in order. -/
def sights : Engine → List Operation → List Sight
  | _, [] => []
  | e, op :: ops => sight (e.perform op) :: sights (e.perform op).value.2 ops

/-- The node on screen is the one of before, mended. -/
theorem nodeId_mended : e.mended.currentNode?.map (·.id) = e.currentNode?.map (·.id) := by
  rw [currentNode?, currentNode?, e.active_mended]
  rcases e.active with - | a
  · rfl
  · rw [Option.map_some, Option.bind_some, Option.bind_some, a.node?_mended, Option.map_map]
    rfl

/-- An echo is seen as what it echoes. -/
theorem sight_of_echo {x y : Told Notice (Reply × Engine)} (h : Echo mendedAnswer x y) :
    sight y = sight x := by
  rw [sight, sight, h.value, h.notices]
  simp only [mendedAnswer, nodeId_mended]
  rfl

/-- Operations show the same of an engine and of the mended one. -/
theorem sights_mended (ops : List Operation) :
    e.mended.sights (ops.map (Operation.mapTree IndexedTree.mended)) = e.sights ops := by
  induction ops generalizing e with
  | nil => rfl
  | cons op ops ih =>
    have hstep := e.echo_perform op
    have hafter : (e.mended.perform (op.mapTree IndexedTree.mended)).value.2 =
        (e.perform op).value.2.mended := congrArg Prod.snd hstep.value
    rw [List.map_cons, sights, sights, sight_of_echo hstep, hafter, ih]

end Engine

/-! ### Sessions -/

namespace Session

variable (x : Session)

/-- The session with a function applied to the trees that are played. -/
def mapTree (f : IndexedTree → IndexedTree) : Session :=
  { x with ops := x.ops.map (Operation.mapTree f) }

/-- What can be seen of a session, operation by operation. -/
def sights : List Engine.Sight := x.start.sights x.ops

/-- Trees that are the same once they are mended may stand for one another. -/
theorem sights_mapTree {f : IndexedTree → IndexedTree} (hf : ∀ t, (f t).mended = t.mended) :
    (x.mapTree f).sights = x.sights := by
  have hops : (x.mapTree f).ops.map (Operation.mapTree IndexedTree.mended) =
      x.ops.map (Operation.mapTree IndexedTree.mended) := by
    simp only [mapTree, List.map_map, Function.comp_def, Operation.mapTree_mapTree, hf]
  -- no dialogue runs at the start, so both runs have the run with mended trees as their echo
  calc (x.mapTree f).sights
      = x.start.mended.sights ((x.mapTree f).ops.map (Operation.mapTree IndexedTree.mended)) :=
        ((x.mapTree f).start.sights_mended (x.mapTree f).ops).symm
    _ = x.start.mended.sights (x.ops.map (Operation.mapTree IndexedTree.mended)) := by rw [hops]
    _ = x.sights := x.start.sights_mended x.ops

/-- Broken content is as good as absent. A tree without its broken content can be indexed as the
tree can, and if it is played in the place of the tree, every operation of a session gives the same
reply, announces the same changes and events, and leaves the same variables and items, the same
node on screen and the same closing. -/
theorem sights_of_mended (t : IndexedTree) :
    t.tree.indexed = .ok t ∧ t.mendedTree.indexed = .ok t.mended ∧
      (x.mapTree fun u ↦ if u = t then t.mended else u).sights = x.sights := by
  refine ⟨t.indexed_tree, t.indexed_mendedTree, x.sights_mapTree fun u ↦ ?_⟩
  split
  · rename_i hu
    rw [hu, t.mended_mended]
  · rfl

end Session

end Storyline
