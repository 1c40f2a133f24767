import Storyline.Ron.Reader
import Storyline.Tree.Basic

/-!
# Trees in RON

How trees are read from files in RON. Every field may be left out that has a default; the name of a
tree or node, the text of a choice, and the variable and the number of an impact have none.
-/

namespace Storyline

/-- The fields of an impact as far as they have been read. -/
structure ImpactFields where
  /-- The variable. -/
  key : Option String := none
  /-- The number. -/
  delta : Option Int32 := none
  /-- The condition. -/
  condition : Option (Option String) := none

/-- Reads an impact. -/
def Impact.reader : Ron.Reader Impact :=
  Ron.record "ImpactDef"
    [("key", Ron.field Ron.string ImpactFields.key fun v s ↦ { s with key := v }),
      ("delta", Ron.field Ron.int32 ImpactFields.delta fun v s ↦ { s with delta := v }),
      ("condition", Ron.field (Ron.option Ron.string) ImpactFields.condition
        fun v s ↦ { s with condition := some v })]
    {} fun s ↦ do
      pure { key := ← s.key, delta := ← s.delta, condition := s.condition.getD none }

/-- The fields of a choice as far as they have been read. -/
structure ChoiceFields where
  /-- The text. -/
  text : Option String := none
  /-- The node that it leads to. -/
  nextNode : Option (Option String) := none
  /-- The impacts. -/
  impacts : Option (List Impact) := none
  /-- The condition. -/
  condition : Option (Option String) := none

/-- Reads a choice. -/
def Choice.reader : Ron.Reader Choice :=
  Ron.record "ChoiceDef"
    [("text", Ron.field Ron.string ChoiceFields.text fun v s ↦ { s with text := v }),
      ("next_node", Ron.field (Ron.option Ron.string) ChoiceFields.nextNode
        fun v s ↦ { s with nextNode := some v }),
      ("impacts", Ron.field (Ron.list Impact.reader) ChoiceFields.impacts
        fun v s ↦ { s with impacts := v }),
      ("condition", Ron.field (Ron.option Ron.string) ChoiceFields.condition
        fun v s ↦ { s with condition := some v })]
    {} fun s ↦ do
      pure
        { text := ← s.text, nextNode := s.nextNode.getD none, impacts := s.impacts.getD []
          condition := s.condition.getD none }

/-- The fields of a node as far as they have been read. -/
structure NodeFields where
  /-- The name. -/
  id : Option String := none
  /-- Who speaks. -/
  speaker : Option (Option String) := none
  /-- The text. -/
  text : Option String := none
  /-- The choices. -/
  choices : Option (List Choice) := none
  /-- The node that follows. -/
  autoNext : Option (Option String) := none
  /-- The commands on entering. -/
  startCommands : Option (List String) := none
  /-- The commands on leaving. -/
  endCommands : Option (List String) := none
  /-- Whether it is an end node. -/
  isEnd : Option Bool := none
  /-- The display duration. -/
  displayDuration : Option (Option Binary32) := none

/-- Reads a node. -/
def Node.reader : Ron.Reader Node :=
  Ron.record "NodeDef"
    [("id", Ron.field Ron.string NodeFields.id fun v s ↦ { s with id := v }),
      ("speaker", Ron.field (Ron.option Ron.string) NodeFields.speaker
        fun v s ↦ { s with speaker := some v }),
      ("text", Ron.field Ron.string NodeFields.text fun v s ↦ { s with text := v }),
      ("choices", Ron.field (Ron.list Choice.reader) NodeFields.choices
        fun v s ↦ { s with choices := v }),
      ("next_node_if_auto", Ron.field (Ron.option Ron.string) NodeFields.autoNext
        fun v s ↦ { s with autoNext := some v }),
      ("start_commands", Ron.field (Ron.list Ron.string) NodeFields.startCommands
        fun v s ↦ { s with startCommands := v }),
      ("end_commands", Ron.field (Ron.list Ron.string) NodeFields.endCommands
        fun v s ↦ { s with endCommands := v }),
      ("is_end_node", Ron.field Ron.bool NodeFields.isEnd fun v s ↦ { s with isEnd := v }),
      ("display_duration", Ron.field (Ron.option Ron.float32) NodeFields.displayDuration
        fun v s ↦ { s with displayDuration := some v })]
    {} fun s ↦ do
      pure
        { id := ← s.id, speaker := s.speaker.getD none, text := s.text.getD ""
          choices := s.choices.getD [], autoNext := s.autoNext.getD none
          startCommands := s.startCommands.getD [], endCommands := s.endCommands.getD []
          isEnd := s.isEnd.getD false, displayDuration := s.displayDuration.getD none }

/-- The fields of a tree as far as they have been read. -/
structure TreeFields where
  /-- The name. -/
  id : Option String := none
  /-- The title. -/
  title : Option String := none
  /-- The node at which it starts. -/
  startNode : Option (Option String) := none
  /-- The typing speed. -/
  typingSpeed : Option Binary32 := none
  /-- Whether a lone choice is taken without asking. -/
  autoAdvanceSingleChoice : Option Bool := none
  /-- The nodes. -/
  nodes : Option (List Node) := none

/-- Reads a tree. -/
def Tree.reader : Ron.Reader Tree :=
  Ron.record "DialogueTreeDef"
    [("id", Ron.field Ron.string TreeFields.id fun v s ↦ { s with id := v }),
      ("title", Ron.field Ron.string TreeFields.title fun v s ↦ { s with title := v }),
      ("start_node", Ron.field (Ron.option Ron.string) TreeFields.startNode
        fun v s ↦ { s with startNode := some v }),
      ("typing_speed", Ron.field Ron.float32 TreeFields.typingSpeed
        fun v s ↦ { s with typingSpeed := v }),
      ("auto_advance_single_choice", Ron.field Ron.bool TreeFields.autoAdvanceSingleChoice
        fun v s ↦ { s with autoAdvanceSingleChoice := v }),
      ("nodes", Ron.field (Ron.list Node.reader) TreeFields.nodes fun v s ↦ { s with nodes := v })]
    {} fun s ↦ do
      pure
        { id := ← s.id, title := s.title.getD "", startNode := s.startNode.getD none
          typingSpeed := s.typingSpeed.getD defaultTypingSpeed
          autoAdvanceSingleChoice := s.autoAdvanceSingleChoice.getD false
          nodes := s.nodes.getD [] }

/-- Reads a tree from the text of a file. -/
def Tree.ofText? (text : String) : Option Tree := Ron.document Tree.reader text

end Storyline
