import Storyline.Tree.Index

/-!
# Nodes found by name

Under a key of the index stands a node whose own name folds to that key. So a node that was found
under one spelling is found again under its authored name (`IndexedTree.node?_id`), which is what
an engine remembers of the node on screen.
-/

namespace Storyline

/-- Each key of an index is the folded name of the node that stands there. -/
def KeyMap.ByName (index : KeyMap Node) : Prop := ∀ k n, index.get? k = some n → foldName n.id = k

/-- A node that goes under its folded name keeps an index by name. -/
theorem KeyMap.ByName.insert {index : KeyMap Node} (h : index.ByName) (n : Node) :
    (index.insert (foldName n.id) n).ByName := by
  intro k m hm
  rw [get?_insert] at hm
  split at hm
  · cases hm
    exact Eq.symm ‹_›
  · exact h k m hm

/-- Nodes are indexed by name. -/
theorem byName_of_indexNodes {tree : String} {ns : List Node} {index index' : KeyMap Node}
    (h : indexNodes tree index ns = .ok index') (hindex : index.ByName) : index'.ByName := by
  induction ns generalizing index with
  | nil =>
    rw [indexNodes] at h
    cases h
    exact hindex
  | cons n ns ih =>
    rw [indexNodes] at h
    split at h
    · cases h
    · split at h
      · cases h
      · exact ih h (hindex.insert n)

namespace IndexedTree

variable {t : IndexedTree} {name : String} {n : Node}

/-- The node that is found has the name that was looked up, folded. -/
theorem foldName_of_node? (h : t.node? name = some n) : foldName n.id = foldName name :=
  byName_of_indexNodes t.index_eq (fun k n hn ↦ by simp at hn) _ n h

/-- A node that was found is found under its own name. -/
theorem node?_id (h : t.node? name = some n) : t.node? n.id = some n := by
  rw [node?, foldName_of_node? h]
  exact h

end IndexedTree

end Storyline
