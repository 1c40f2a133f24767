import Storyline.KeyMap
import Storyline.Store.Key
import Storyline.Tree.Basic

/-!
# Looking nodes up by name

An indexed tree finds a node under any spelling of its name. Indexing refuses a tree that has a
node with a blank name, or two nodes whose names fold to the same key; the first such node
decides.
-/

namespace Storyline

/-- Why a tree cannot be indexed. -/
inductive IndexError where
  /-- A node has a blank name. -/
  | blankNode (tree : String)
  /-- A node has the name of an earlier one. -/
  | duplicateNode (tree node : String)
  deriving DecidableEq

/-- The message for a tree that cannot be indexed. -/
def IndexError.message : IndexError → String
  | .blankNode tree => "dialogue tree '" ++ tree ++ "' contains a node with a blank id"
  | .duplicateNode tree node =>
    "dialogue tree '" ++ tree ++ "' defines node '" ++ node ++ "' more than once"

/-- The index of a list of nodes, on top of the one that holds the nodes before them. -/
def indexNodes (tree : String) : KeyMap Node → List Node → Except IndexError (KeyMap Node)
  | index, [] => .ok index
  | index, n :: ns =>
    let key := foldName n.id
    if key.isEmpty then .error (.blankNode tree)
    else if index.contains key then .error (.duplicateNode tree n.id)
    else indexNodes tree (index.insert key n) ns

/-- A tree with its nodes under the folded forms of their names. -/
structure IndexedTree where
  /-- The tree. -/
  tree : Tree
  /-- Its nodes by name. -/
  index : KeyMap Node
  /-- The index is the one of the nodes of the tree. -/
  index_eq : indexNodes tree.id .empty tree.nodes = .ok index
  deriving DecidableEq

/-- Indexes a tree. -/
def Tree.indexed (t : Tree) : Except IndexError IndexedTree :=
  match h : indexNodes t.id .empty t.nodes with
  | .ok index => .ok ⟨t, index, h⟩
  | .error e => .error e

namespace IndexedTree

variable (t : IndexedTree)

/-- The name of the tree. -/
def id : String := t.tree.id

/-- The node with a name, in any spelling. -/
def node? (name : String) : Option Node := t.index.get? (foldName name)

/-- The node at which the tree starts. -/
def startNode? : Option Node := t.tree.startNode.bind t.node?

end IndexedTree

end Storyline
