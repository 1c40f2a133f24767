import Storyline.Proofs.Dialogue.Choosing
import Storyline.Proofs.Session.Refusal

/-!
# Taking a choice in a session

In every state that a session reaches, the node on screen is found in its tree, and each of its
visible choices can be taken. What is announced then, in which order, which node is on screen
afterwards, and what becomes of the variables and the items, is all said by `World.chosen`.
-/

namespace Storyline

namespace Session

/-- The full effect of taking a visible choice. -/
theorem select_visible (x : Session) {index : Nat} (hactive : x.engine.isActive = true)
    (h : index < x.engine.shown.length) :
    ∃ tree node choice, x.engine.activeNode = .ok (tree, node) ∧
      (node.choicesIn x.engine.world.store)[index]? = some choice ∧
      let call := x.engine.select index
      let after := x.engine.world.chosen tree node choice index
      call.value.1 = .ok () ∧ call.notices = after.notices ∧
        call.value.2.active = after.active ∧ call.value.2.world = after.world := by
  obtain ⟨tree, node, hnode, hshown⟩ := x.coherent.activeNode_of_active hactive
  rw [hshown] at h
  rcases x.engine.select_cases index with ⟨err, herr, -⟩ | ⟨tree', node', hok, hcases⟩
  · rw [hnode] at herr
    cases herr
  · obtain ⟨rfl, rfl⟩ : tree = tree' ∧ node = node' := by simpa [hnode] using hok
    rcases hcases with ⟨hnone, -⟩ | ⟨i, choice, hchoice, hcarried⟩
    · have hle := List.getElem?_eq_none_iff.mp hnone
      omega
    · obtain ⟨hnotices, hafter, hworld⟩ := Engine.take_spec hactive tree node choice index
      refine ⟨tree, node, choice, hnode, ?_, ?_⟩
      · rw [← node.map_shown, List.getElem?_map, hchoice]
        rfl
      · dsimp only
        rw [hcarried.value, hcarried.notices]
        exact ⟨rfl, hnotices, hafter, hworld⟩

end Session

/-! ### Going aboard -/

/-- A node with a choice that is hidden, and one with impacts of all sorts: under a blank key, and
under conditions that hold or not in what the first impact leaves. -/
def quayNode : Node where
  id := "quay"
  choices :=
    [{ text := "Swim", condition := some "sanity < 10" },
      { text := "Board"
        nextNode := some " Deck"
        impacts :=
          [⟨"sanity", -30, none⟩, ⟨" ", 5, none⟩, ⟨"Courage", 2, some "sanity < 80"⟩,
            ⟨"courage", 1, some "sanity > 90"⟩] }]
  endCommands := ["item:ticket", "whistle"]

/-- The node to which it leads. -/
def deckNode : Node where
  id := "deck"
  choices := [{ text := "Sing", condition := some "courage >= 2" }, { text := "Sleep" }]
  startCommands := ["flag:Aboard", "item:Ticket"]

/-- The tree of the two. -/
def quayTree : IndexedTree where
  tree := { id := "ferry", startNode := some "quay", nodes := [quayNode, deckNode] }
  index := (KeyMap.empty.insert "quay" quayNode).insert "deck" deckNode
  index_eq := rfl

/-- The session in which the tree has been started. -/
def quaySession : Session where
  seeds := .standard
  ops := [.start quayTree]

/-- Going aboard. -/
theorem Session.select_visible_aboard :
    ∃ board, quayNode.choices[1]? = some board ∧
      let call := quaySession.engine.select 0
      call.value.1 = .ok () ∧
      call.notices =
        [.event (.choiceSelected quayNode board 0),
          .change (.int "sanity" 70), .event (.impactApplied "sanity" (-30)),
          .change (.int "courage" 2), .event (.impactApplied "Courage" 2),
          .event (.itemGiven "ticket"),
          .change (.bool "aboard" true), .event (.itemGiven "Ticket"),
          .event (.nodeDisplayed quayTree.tree deckNode), .event (.choicesUpdated deckNode 2)] ∧
      call.value.2.active = some ⟨quayTree, "deck"⟩ ∧
      call.value.2.world.inventory = ⟨["ticket"]⟩ := by
  have hvisible : 0 < quaySession.engine.shown.length := by decide +kernel
  obtain ⟨tree, node, board, hnode, hboard, hanswer, hnotices, hactive, hworld⟩ :=
    Session.select_visible quaySession (by decide +kernel) hvisible
  have hquay : quaySession.engine.activeNode = .ok (quayTree, quayNode) := by rfl
  rw [hquay] at hnode
  cases hnode
  have hsecond : (quayNode.choicesIn quaySession.engine.world.store)[0]? =
      quayNode.choices[1]? := by
    decide +kernel
  rw [hsecond] at hboard
  refine ⟨board, hboard, hanswer, ?_⟩
  rw [hnotices, hactive, hworld]
  cases hboard
  decide +kernel

end Storyline
