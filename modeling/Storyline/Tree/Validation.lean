import Storyline.Binary.Text
import Storyline.Store.Key
import Storyline.Tree.Basic

/-!
# Defects of a tree

`Tree.defects` lists what is wrong with the structure of a tree: blank and repeated names,
references to nodes that do not exist, and numbers without a meaning. Names are compared in their
folded forms, as they are when a node is looked up. Conditions and commands are not read here.
-/

namespace Storyline

/-- Where a tree refers to a node. -/
inductive Reference where
  /-- The start of the tree. -/
  | start
  /-- The node that follows another. -/
  | autoNext (node : String)
  /-- The target of a choice, by its position. -/
  | choice (node : String) (index : Nat)
  deriving DecidableEq

/-- A reference as a message names it. -/
def Reference.describe : Reference → String
  | .start => "tree start node"
  | .autoNext node => "node '" ++ node ++ "' auto-advance"
  | .choice node index => "node '" ++ node ++ "' choice " ++ Numeral.decimal index

/-- What can be wrong with a tree. -/
inductive Defect where
  /-- The tree has a blank name. -/
  | blankTree
  /-- A node has a blank name. -/
  | blankNode
  /-- A node has the name of an earlier one. -/
  | duplicateNode (id : String)
  /-- The tree names no node to start at. -/
  | noStart (tree : String)
  /-- The typing speed is not a positive number. -/
  | typingSpeed (tree : String) (speed : Binary32)
  /-- A reference leads nowhere. -/
  | missingNode (id : String) (place : Reference)
  /-- A display duration is negative or not finite. -/
  | displayDuration (node : String) (seconds : Binary32)
  /-- An impact of a choice names no variable. -/
  | blankImpact (node : String) (choice : Nat)
  deriving DecidableEq

/-- The message for a defect. -/
def Defect.message : Defect → String
  | .blankTree => invalid "tree id is blank"
  | .blankNode => invalid "node with blank id"
  | .duplicateNode id => "duplicate node id '" ++ id ++ "'"
  | .noStart tree => invalid ("tree '" ++ tree ++ "' has no start node")
  | .typingSpeed tree speed => invalid ("tree '" ++ tree ++ "' typing speed " ++ speed.text .plain)
  | .missingNode id place => "missing node '" ++ id ++ "' (" ++ place.describe ++ ")"
  | .displayDuration node seconds =>
    invalid ("node '" ++ node ++ "' display duration " ++ seconds.text .plain)
  | .blankImpact node choice =>
    invalid ("node '" ++ node ++ "' choice " ++ Numeral.decimal choice ++
      " has an impact with a blank key")
where
  /-- The message for a value that has no meaning. -/
  invalid (context : String) : String := "invalid value (" ++ context ++ ")"

namespace Validation

/-- The defects of node names, after the folded names in `seen`. -/
def nameDefects (seen : List String) : List Node → List Defect
  | [] => []
  | n :: ns =>
    if Text.isBlankText n.id then .blankNode :: nameDefects seen ns
    else
      let key := foldName n.id
      if seen.contains key then .duplicateNode n.id :: nameDefects seen ns
      else nameDefects (key :: seen) ns

/-- The folded names of the nodes that have one. -/
def knownNames (nodes : List Node) : List String :=
  (nodes.filter fun n ↦ !Text.isBlankText n.id).map fun n ↦ foldName n.id

/-- The defect of a reference, if it leads nowhere. -/
def referenceDefects (known : List String) (place : Reference) (id : String) : List Defect :=
  if known.contains (foldName id) then [] else [.missingNode id place]

/-- The defects of the choice at a position of a node. -/
def choiceDefects (known : List String) (node : String) (index : Nat) (c : Choice) : List Defect :=
  (c.nextNode.toList.flatMap (referenceDefects known (.choice node index))) ++
    (c.impacts.filter fun i ↦ Text.isBlankText i.key).map fun _ ↦ .blankImpact node index

/-- The defects of the edges of a node, and of its display duration. -/
def nodeDefects (known : List String) (n : Node) : List Defect :=
  (n.autoNext.toList.flatMap (referenceDefects known (.autoNext n.id))) ++
    ((n.displayDuration.toList.filter fun s ↦ !s.isFinite || s.isBelowZero).map
      (.displayDuration n.id)) ++
    (n.choices.zipIdx.flatMap fun p ↦ choiceDefects known n.id p.2 p.1)

/-- The defects of the node at which a tree starts. -/
def startDefects (known : List String) (t : Tree) : List Defect :=
  match t.startNode with
  | some start => referenceDefects known .start start
  | none => [.noStart t.id]

end Validation

/-- The defects of a tree, in the order of the document. -/
def Tree.defects (t : Tree) : List Defect :=
  let known := Validation.knownNames t.nodes
  (if Text.isBlankText t.id then [.blankTree] else []) ++
    Validation.nameDefects [] t.nodes ++
    Validation.startDefects known t ++
    (if t.typingSpeed.isFinite && t.typingSpeed.isPositive then []
      else [.typingSpeed t.id t.typingSpeed]) ++
    t.nodes.flatMap (Validation.nodeDefects known)

end Storyline
