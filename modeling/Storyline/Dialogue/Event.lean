import Storyline.Tree.Basic
import Storyline.World

/-!
# What a dialogue announces

Showing a node announces the items that its commands grant, then the node and the number of its
visible choices. Taking a choice announces the choice, each impact that was made, the items
granted on leaving, and then the next node or the end.
-/

namespace Storyline

/-- A step of a dialogue. -/
inductive Event where
  /-- A node of a tree is on screen. -/
  | nodeDisplayed (tree : Tree) (node : Node)
  /-- So many choices of the node are visible. -/
  | choicesUpdated (node : Node) (visible : Nat)
  /-- The player took a choice of the node, the one at this place among the visible ones. -/
  | choiceSelected (node : Node) (choice : Choice) (index : Nat)
  /-- A variable was changed. -/
  | impactApplied (key : String) (delta : Int32)
  /-- An item was granted. -/
  | itemGiven (id : String)
  /-- The dialogue is over. -/
  | ended
  deriving DecidableEq

/-- The short text of an event. -/
def Event.display : Event → String
  | .nodeDisplayed _ node => "node_displayed(" ++ node.id ++ ")"
  | .choicesUpdated _ visible => "choices_updated(" ++ Numeral.decimal visible ++ ")"
  | .choiceSelected node _ index =>
    "choice_selected(" ++ node.id ++ "#" ++ Numeral.decimal index ++ ")"
  | .impactApplied key delta =>
    "impact_applied(" ++ key ++ "," ++ Numeral.signed delta.toInt ++ ")"
  | .itemGiven id => "item_given(" ++ id ++ ")"
  | .ended => "dialogue_ended"

/-- What the engine announces: a change of the store, or a step of the dialogue. -/
inductive Notice where
  | change (c : Change)
  | event (e : Event)
  deriving DecidableEq

end Storyline
