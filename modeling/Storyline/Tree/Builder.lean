import Storyline.Tree.Basic

/-!
# Building trees

Trees that are not read from a file are put together: each function adds one part to a tree, a node,
a choice or an impact, at the end of what is there. What cannot be said with them keeps its default.
-/

namespace Storyline

namespace Impact

/-- An impact that is always made. -/
def new (key : String) (delta : Int32) : Impact := { key, delta }

/-- The impact under a condition. -/
def when (i : Impact) (condition : String) : Impact := { i with condition := some condition }

end Impact

namespace Choice

/-- A choice that is always shown, changes nothing and ends the dialogue. -/
def new (text : String) : Choice := { text }

/-- The choice with a node that it leads to. -/
def withNext (c : Choice) (node : String) : Choice := { c with nextNode := some node }

/-- The choice with one more impact. -/
def withImpact (c : Choice) (i : Impact) : Choice := { c with impacts := c.impacts ++ [i] }

/-- The choice under a condition. -/
def withCondition (c : Choice) (condition : String) : Choice :=
  { c with condition := some condition }

end Choice

namespace Node

/-- A node without edges and commands. -/
def new (id text : String) : Node := { id, text }

/-- The node with a speaker. -/
def withSpeaker (n : Node) (speaker : String) : Node := { n with speaker := some speaker }

/-- The node with one more choice. -/
def withChoice (n : Node) (c : Choice) : Node := { n with choices := n.choices ++ [c] }

/-- The node with the one that follows it. -/
def withAutoNext (n : Node) (node : String) : Node := { n with autoNext := some node }

/-- The node with one more command on entering. -/
def withStartCommand (n : Node) (command : String) : Node :=
  { n with startCommands := n.startCommands ++ [command] }

/-- The node with one more command on leaving. -/
def withEndCommand (n : Node) (command : String) : Node :=
  { n with endCommands := n.endCommands ++ [command] }

/-- The node as an end node, with the seconds for which it stays on screen. -/
def ending (n : Node) (displayDuration : Option Binary32) : Node :=
  { n with isEnd := true, displayDuration }

end Node

namespace Tree

/-- A tree without nodes. -/
def new (id title : String) : Tree := { id, title }

/-- The tree with the node at which it starts. -/
def withStart (t : Tree) (node : String) : Tree := { t with startNode := some node }

/-- The tree with one more node. -/
def withNode (t : Tree) (n : Node) : Tree := { t with nodes := t.nodes ++ [n] }

end Tree

end Storyline
