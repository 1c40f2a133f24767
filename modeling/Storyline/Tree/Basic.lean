import Storyline.Binary.Rounding

/-!
# Authored dialogue trees

A tree is a list of nodes. A node shows a text and offers choices; a choice leads to another node
and changes variables on the way. Nodes refer to each other by name, and an absent reference on an
edge means that the dialogue ends there. Conditions and commands are kept as they were authored.
-/

namespace Storyline

/-- A change of an integer variable when a choice is taken. -/
structure Impact where
  /-- The variable. -/
  key : String
  /-- What is added to it. -/
  delta : Int32
  /-- The condition under which the change is made; none means always. -/
  condition : Option String := none
  deriving DecidableEq

/-- An edge that the player can take. -/
structure Choice where
  /-- What the player reads. -/
  text : String
  /-- The node that it leads to; none ends the dialogue. -/
  nextNode : Option String := none
  /-- The changes that it makes, in order. -/
  impacts : List Impact := []
  /-- The condition under which it is shown; none means always. -/
  condition : Option String := none
  deriving DecidableEq

/-- One beat of a dialogue, with its outgoing edges. -/
structure Node where
  /-- Its name in the tree. -/
  id : String
  /-- Who speaks. -/
  speaker : Option String := none
  /-- What is shown. -/
  text : String := ""
  /-- The edges that the player can take. -/
  choices : List Choice := []
  /-- The node that follows where no choice is visible. -/
  autoNext : Option String := none
  /-- The commands run on entering the node. -/
  startCommands : List String := []
  /-- The commands run on leaving it. -/
  endCommands : List String := []
  /-- Whether the dialogue closes itself here. -/
  isEnd : Bool := false
  /-- The seconds for which an end node stays on screen. -/
  displayDuration : Option Binary32 := none
  deriving DecidableEq

/-- The typing speed of a tree that sets none: 40 characters in a second. -/
def defaultTypingSpeed : Binary32 := Binary.ofDecimal false 40 0

/-- A dialogue tree as it is authored. -/
structure Tree where
  /-- Its name. -/
  id : String
  /-- Its title. -/
  title : String := ""
  /-- The node at which it starts. -/
  startNode : Option String := none
  /-- The characters shown in a second. -/
  typingSpeed : Binary32 := defaultTypingSpeed
  /-- Whether a lone visible choice is taken without asking. -/
  autoAdvanceSingleChoice : Bool := false
  /-- The nodes, in the order in which they are authored. -/
  nodes : List Node := []
  deriving DecidableEq

end Storyline
