import Storyline.Proofs.Tree.Agreement

/-!
# One node to a name

An index takes up the nodes of a tree one by one, and refuses a node under whose key there is one
already. What it has under a key is then, as a list, what it had there before and the nodes of the
tree with that key (`toList_get?_indexNodes`); as there is never more than one under a key, neither
are there two nodes of an indexed tree that answer to one name. Looking a name up gives the one that
does (`Tree.one_node_answers`).
-/

namespace Storyline

/-- A node answers to its name in every spelling: blanks around it and the case of its letters do
not matter. -/
def Node.AnswersTo (n : Node) (name : String) : Prop :=
  Text.lower (Text.trim n.id) = Text.lower (Text.trim name)

instance (n : Node) (name : String) : Decidable (n.AnswersTo name) :=
  inferInstanceAs (Decidable (_ = _))

theorem Node.answersTo_id (n : Node) : n.AnswersTo n.id := rfl

/-- Under a key stands what stood there before, or the node that has the key; never both. -/
theorem toList_get?_indexNodes {tree : String} {ns : List Node} {index index' : KeyMap Node}
    (h : indexNodes tree index ns = .ok index') (key : String) :
    (index'.get? key).toList =
      (index.get? key).toList ++ ns.filter fun n ↦ foldName n.id = key := by
  induction ns generalizing index with
  | nil =>
    cases h
    exact (List.append_nil _).symm
  | cons n ns ih =>
    rw [indexNodes] at h
    split at h
    · cases h
    · split at h
      · cases h
      · rename_i hfree
        rw [ih h, KeyMap.get?_insert]
        by_cases hkey : foldName n.id = key
        · -- the place of the node was free
          have hnone : index.get? key = none := by
            rw [← hkey]
            simpa [KeyMap.contains] using hfree
          rw [if_pos hkey.symm, hnone, List.filter_cons_of_pos (by simpa using hkey)]
          rfl
        · rw [if_neg (Ne.symm hkey), List.filter_cons_of_neg (by simpa using hkey)]

/-- What is found under a name is what answers to it. -/
theorem IndexedTree.toList_node? (it : IndexedTree) (name : String) :
    (it.node? name).toList = it.tree.nodes.filter fun n ↦ n.AnswersTo name :=
  toList_get?_indexNodes it.index_eq (foldName name)

/-- In a tree that is indexed, a name leads to the one node that answers to it, and to none only if
none does. So every node is found under its own name, and no two nodes answer to one name. -/
theorem Tree.one_node_answers {t : Tree} {it : IndexedTree} (h : t.indexed = .ok it)
    (name : String) :
    t.nodes.filter (fun n ↦ n.AnswersTo name) = (it.node? name).toList ∧
      (∀ n, it.node? name = some n ↔ n ∈ t.nodes ∧ n.AnswersTo name) ∧
      (it.node? name = none ↔ ∀ n ∈ t.nodes, ¬n.AnswersTo name) ∧
      (∀ n ∈ t.nodes, it.node? n.id = some n) ∧
      t.nodes.Pairwise fun m n ↦ ¬(m.AnswersTo name ∧ n.AnswersTo name) := by
  obtain rfl := tree_of_indexed h
  have hfound (other : String) (n : Node) :
      it.node? other = some n ↔ n ∈ it.tree.nodes ∧ n.AnswersTo other := by
    rw [← Option.mem_toList, it.toList_node? other, List.mem_filter, decide_eq_true_eq]
  refine ⟨(it.toList_node? name).symm, hfound name, ?_, fun n hn ↦ ?_, ?_⟩
  · rw [← Option.toList_eq_nil_iff, it.toList_node?, List.filter_eq_nil_iff]
    simp only [decide_eq_true_eq]
  · exact (hfound n.id n).mpr ⟨hn, n.answersTo_id⟩
  · -- those that answer make up a list of one node at most
    have hone : (it.node? name).toList.Pairwise fun _ _ ↦ False := by
      rcases it.node? name with - | n
      · exact .nil
      · exact List.pairwise_singleton _ n
    rw [it.toList_node?, List.pairwise_filter] at hone
    refine hone.imp fun hboth hanswer ↦ ?_
    exact hboth (decide_eq_true hanswer.1) (decide_eq_true hanswer.2)

/-! ### Two sages -/

/-- A node named in capitals. In small letters, its last one is a sigma at the end of a word. -/
def elderNode : Node where
  id := "ΣΟΦΟΣ"

/-- A node named in small letters, with the other sigma at its end. -/
def youngerNode : Node where
  id := " σοφοσ"

/-- The tree of the two, which have different names. -/
def sageTree : IndexedTree where
  tree := { id := "agora", nodes := [elderNode, youngerNode] }
  index := (KeyMap.empty.insert "σοφος" elderNode).insert "σοφοσ" youngerNode
  index_eq := by decide +kernel

/-- Each of them is found in other spellings of its name, and a name that neither has leads to
none. -/
theorem Tree.one_node_answers_sages :
    sageTree.tree.indexed = .ok sageTree ∧
      sageTree.node? "Σοφος\t" = some elderNode ∧
      sageTree.node? "ΣΟΦΟΙ" = none ∧
      sageTree.node? " σοφοσ" = some youngerNode := by
  have hindexed : sageTree.tree.indexed = .ok sageTree := IndexedTree.indexed_tree sageTree
  obtain ⟨-, hfound, -, hown, -⟩ := Tree.one_node_answers hindexed "Σοφος\t"
  obtain ⟨-, -, hnone, -⟩ := Tree.one_node_answers hindexed "ΣΟΦΟΙ"
  exact ⟨hindexed, (hfound elderNode).mpr (by decide +kernel), hnone.mpr (by decide +kernel),
    hown youngerNode (by decide +kernel)⟩

end Storyline
