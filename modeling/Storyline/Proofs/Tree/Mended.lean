import Storyline.Command.Basic
import Storyline.Condition.Basic
import Storyline.Proofs.Tree.Lookup

/-!
# Trees without broken content

Broken content is what an author wrote and no engine can use: a command that cannot be read, an
impact on a variable without a name or under a condition that cannot be read, a choice under such
a condition, and a choice that leads to a node that the tree does not have. Mending a tree leaves
it out, so that a choice which led nowhere ends the dialogue.

A mended tree has the same names as before, each for the mended node (`IndexedTree.node?_mended`),
and it is indexed as it stands (`IndexedTree.indexed_mendedTree`). There is nothing left to mend in
it (`IndexedTree.mended_mended`).
-/

namespace Storyline

/-! ### Maps with other values -/

namespace KeyMap

variable {α β : Type}

/-- The map with a function applied to its values. -/
def map (f : α → β) (m : KeyMap α) : KeyMap β where
  entries := m.entries.map fun e ↦ (e.1, f e.2)
  ascending := List.pairwise_map.mpr m.ascending

theorem map_empty (f : α → β) : (empty : KeyMap α).map f = empty := rfl

theorem lookup_map (f : α → β) (key : String) (es : List (String × α)) :
    (es.map fun e ↦ (e.1, f e.2)).lookup key = (es.lookup key).map f := by
  induction es with
  | nil => rfl
  | cons e es ih =>
    rw [List.map_cons, lookup_cons_eq_ite, lookup_cons_eq_ite, ih]
    split <;> rfl

theorem get?_map (f : α → β) (m : KeyMap α) (key : String) :
    (m.map f).get? key = (m.get? key).map f := lookup_map f key m.entries

theorem map_insert (f : α → β) (m : KeyMap α) (key : String) (a : α) :
    (m.insert key a).map f = (m.map f).insert key (f a) := by
  refine ext_get? fun k ↦ ?_
  rw [get?_map, get?_insert, get?_insert, get?_map]
  split <;> rfl

theorem contains_map (f : α → β) (m : KeyMap α) (key : String) :
    (m.map f).contains key = m.contains key := by
  rw [contains, contains, get?_map, Option.isSome_map]

end KeyMap

/-- Nodes that are changed but for their names are indexed as they are. -/
theorem indexNodes_map {f : Node → Node} (hid : ∀ n, (f n).id = n.id) (tree : String)
    (index : KeyMap Node) (ns : List Node) :
    indexNodes tree (index.map f) (ns.map f) = (indexNodes tree index ns).map (KeyMap.map f) := by
  induction ns generalizing index with
  | nil => rfl
  | cons n ns ih =>
    rw [List.map_cons, indexNodes, indexNodes, hid n]
    simp only [KeyMap.contains_map, ← KeyMap.map_insert, ih]
    split
    · rfl
    · split <;> rfl

/-! ### Content that can be used -/

/-- Whether a text is a command. -/
def isCommand (raw : String) : Bool := (Command.parse raw).isOk

/-- Whether a condition can be read; none can. -/
def isReadable : Option String → Bool
  | none => true
  | some expression => (Condition.parse expression).isOk

/-- Whether an impact names a variable and its condition can be read. -/
def Impact.isUsable (i : Impact) : Bool := !Text.isBlankText i.key && isReadable i.condition

/-! ### Mending -/

/-- The choice without broken impacts, and with the end of the dialogue for a node that is not
known. -/
def Choice.mended (known : String → Bool) (c : Choice) : Choice :=
  { c with nextNode := c.nextNode.filter known, impacts := c.impacts.filter Impact.isUsable }

/-- The node without broken commands and choices, its other choices mended. -/
def Node.mended (known : String → Bool) (n : Node) : Node :=
  { n with
    choices := (n.choices.filter fun c ↦ isReadable c.condition).map (Choice.mended known)
    startCommands := n.startCommands.filter isCommand
    endCommands := n.endCommands.filter isCommand }

example :
    Node.mended (· == "cellar")
        { id := "door", startCommands := ["knock"],
          choices := [
            { text := "Go up", nextNode := some "roof", impacts := [⟨" ", 1, none⟩] },
            { text := "Go down", nextNode := some "cellar" },
            { text := "Stay", condition := some "gold >" }] } =
      { id := "door",
        choices := [{ text := "Go up" }, { text := "Go down", nextNode := some "cellar" }] } := by
  decide +kernel

/-- A choice is mended once. -/
theorem Choice.mended_mended (known : String → Bool) (c : Choice) :
    (c.mended known).mended known = c.mended known := by
  have hnext : (c.nextNode.filter known).filter known = c.nextNode.filter known := by
    rw [Option.filter_filter]
    simp only [Bool.and_self]
  rw [mended, mended, hnext, List.filter_filter]
  simp only [Bool.and_self]

theorem Node.mended_mended (known : String → Bool) (n : Node) :
    (n.mended known).mended known = n.mended known := by
  have hchoices (cs : List Choice) :
      ((cs.filter fun c ↦ isReadable c.condition).map (Choice.mended known)).filter
          (fun c ↦ isReadable c.condition) =
        (cs.filter fun c ↦ isReadable c.condition).map (Choice.mended known) := by
    rw [List.filter_eq_self]
    intro c hc
    obtain ⟨c, hmem, rfl⟩ := List.mem_map.mp hc
    exact (List.mem_filter.mp hmem).2
  rw [mended, mended]
  simp only [hchoices, List.map_map, List.filter_filter, Bool.and_self]
  congr 2
  funext c
  exact c.mended_mended known

namespace IndexedTree

variable (t : IndexedTree)

/-- Whether the tree has a node with a name, in any spelling. -/
def knows (name : String) : Bool := (t.node? name).isSome

/-- The tree as it would be authored without its broken content. -/
def mendedTree : Tree := { t.tree with nodes := t.tree.nodes.map (Node.mended t.knows) }

/-- The tree without its broken content, indexed. -/
def mended : IndexedTree where
  tree := t.mendedTree
  index := t.index.map (Node.mended t.knows)
  index_eq := by
    have hmended := indexNodes_map (f := Node.mended t.knows) (fun _ ↦ rfl) t.tree.id .empty
      t.tree.nodes
    rw [t.index_eq, KeyMap.map_empty] at hmended
    exact hmended

/-- Indexing finds the index of a tree. -/
theorem indexed_tree : t.tree.indexed = .ok t := by
  rw [Tree.indexed]
  split
  · rename_i index h
    have hindex : index = t.index := Except.ok.inj (h.symm.trans t.index_eq)
    subst hindex
    rfl
  · rename_i err h
    cases h.symm.trans t.index_eq

/-- A mended tree is accepted, with the mended index. -/
theorem indexed_mendedTree : t.mendedTree.indexed = .ok t.mended := t.mended.indexed_tree

theorem id_mended : t.mended.id = t.id := rfl

/-- Under each name of a mended tree stands the mended node. -/
theorem node?_mended (name : String) :
    t.mended.node? name = (t.node? name).map (Node.mended t.knows) :=
  KeyMap.get?_map _ _ _

/-- A mended tree knows the same names. -/
theorem knows_mended : t.mended.knows = t.knows := by
  funext name
  rw [knows, knows, node?_mended, Option.isSome_map]

/-- Mending a tree twice is mending it once. -/
theorem mended_mended : t.mended.mended = t.mended := by
  have hnode : Node.mended t.knows ∘ Node.mended t.knows = Node.mended t.knows :=
    funext fun n ↦ n.mended_mended t.knows
  have htree : t.mended.mendedTree = t.mendedTree := by
    rw [mendedTree, knows_mended]
    simp only [mended, mendedTree, List.map_map, hnode]
  exact Except.ok.inj (t.mended.indexed_mendedTree.symm.trans (htree ▸ t.indexed_mendedTree))

end IndexedTree

end Storyline
