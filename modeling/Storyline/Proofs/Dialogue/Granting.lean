import Storyline.Proofs.Command.Effect
import Storyline.Proofs.Dialogue.Outcome

/-!
# Items in the course of a dialogue

Items are told apart up to the case of ASCII letters, and no two of those that are held are the same
item (`Inventory.Distinct`). Granting keeps this, for an item that is held is not granted again, and
so does taking away. It is also what makes the latter final: there is but one entry to take away,
so the item is not held afterwards (`Inventory.Distinct.remove_spec`).

A dialogue only ever grants items. Each of its calls has granted some, in order, by the time it is
over (`Engine.Grants`).
-/

namespace Storyline

namespace Inventory

variable {inv : Inventory} {item : String}

/-- No two items that are held are the same. -/
def Distinct (inv : Inventory) : Prop :=
  inv.items.Pairwise fun held later ↦ Text.sameText held later = false

/-- An item is held if one that is equal to it up to ASCII case is. -/
theorem contains_iff :
    inv.contains item = true ↔ ∃ held ∈ inv.items, Text.sameText held item = true :=
  List.any_eq_true

theorem contains_eq_false_iff :
    inv.contains item = false ↔ ∀ held ∈ inv.items, Text.sameText held item = false := by
  rw [contains, List.any_eq_false]
  simp only [Bool.not_eq_true]

/-- Nothing is held twice where nothing is held. -/
theorem distinct_empty : Distinct {} := List.Pairwise.nil

/-! ### Granting -/

/-- Granting an item that is held changes nothing. -/
theorem including_of_contains (h : inv.contains item = true) : inv.including item = inv :=
  if_pos h

/-- An item that is not held yet goes to the end. -/
theorem items_including_of_not_contains (h : inv.contains item = false) :
    (inv.including item).items = inv.items ++ [item] := by
  rw [including, h, if_neg Bool.false_ne_true]

/-- Granting an item keeps all items different. -/
theorem Distinct.including (h : inv.Distinct) (item : String) :
    (inv.including item).Distinct := by
  rcases hheld : inv.contains item with - | -
  · rw [Distinct, items_including_of_not_contains hheld, List.pairwise_append]
    refine ⟨h, List.pairwise_singleton _ _, fun held hmem later hlater ↦ ?_⟩
    rw [List.mem_singleton.mp hlater]
    exact contains_eq_false_iff.mp hheld held hmem
  · rwa [including_of_contains hheld]

/-! ### Taking away -/

/-- Taking an item away keeps them different. -/
theorem Distinct.remove (h : inv.Distinct) (item : String) : (inv.remove item).2.Distinct :=
  h.sublist List.eraseP_sublist

/-- An item that is not held cannot be taken away. -/
theorem remove_of_not_contains (h : inv.contains item = false) :
    inv.remove item = (false, inv) := by
  have hnone : ∀ held ∈ inv.items, ¬Text.sameText held item = true := fun held hmem ↦
    Bool.eq_false_iff.mp (contains_eq_false_iff.mp h held hmem)
  rw [remove, h, List.eraseP_of_forall_not hnone]

/-- Of an item that is held the one entry is taken away, and none is left of it. -/
theorem Distinct.remove_spec (h : inv.Distinct) (hheld : inv.contains item = true) :
    ∃ before held after, inv.items = before ++ held :: after ∧ Text.sameText held item = true ∧
      inv.remove item = (true, ⟨before ++ after⟩) ∧
      Inventory.contains ⟨before ++ after⟩ item = false := by
  obtain ⟨found, hmem, hfound⟩ := contains_iff.mp hheld
  obtain ⟨held, before, after, hbefore, hsame, hitems, herased⟩ :=
    List.exists_of_eraseP (p := (Text.sameText · item)) hmem hfound
  refine ⟨before, held, after, hitems, hsame, by rw [Inventory.remove, hheld, herased], ?_⟩
  rw [Distinct, hitems, List.pairwise_append, List.pairwise_cons] at h
  obtain ⟨-, ⟨hafter, -⟩, -⟩ := h
  rw [contains_eq_false_iff]
  intro other hother
  rcases List.mem_append.mp hother with hfirst | hlater
  · exact Bool.eq_false_iff.mpr (hbefore other hfirst)
  · -- behind the entry no other is the same item as it
    have hdiffer := hafter other hlater
    rw [Bool.eq_false_iff, ne_eq, Text.sameText_iff] at hdiffer ⊢
    rw [← Text.sameText_iff.mp hsame]
    exact fun heq ↦ hdiffer heq.symm

/-! ### Several grants -/

/-- The items once others have been granted, one after the other. -/
def includingAll (inv : Inventory) (items : List String) : Inventory :=
  items.foldl including inv

/-- Any number of items may be granted. -/
theorem Distinct.includingAll (h : inv.Distinct) (items : List String) :
    (inv.includingAll items).Distinct := by
  induction items generalizing inv with
  | nil => exact h
  | cons item items ih => exact ih (h.including item)

/-- Items are granted one after the other. -/
theorem includingAll_append (inv : Inventory) (items more : List String) :
    inv.includingAll (items ++ more) = (inv.includingAll items).includingAll more :=
  List.foldl_append

end Inventory

namespace World

variable {w w' : World}

/-- On the way from a world to another, items were granted and none was taken away. -/
def Grants (w w' : World) : Prop := ∃ items, w'.inventory = w.inventory.includingAll items

/-- Where the items stay as they are, none was granted. -/
theorem grants_of_inventory_eq (h : w'.inventory = w.inventory) : w.Grants w' := ⟨[], h⟩

theorem Grants.refl (w : World) : w.Grants w := grants_of_inventory_eq rfl

/-- Items that are granted in two steps are granted. -/
theorem Grants.trans {v : World} (h : w.Grants v) (h' : v.Grants w') : w.Grants w' := by
  obtain ⟨items, hitems⟩ := h
  obtain ⟨more, hmore⟩ := h'
  exact ⟨items ++ more, by rw [hmore, hitems, Inventory.includingAll_append]⟩

/-- Granting keeps all items different. -/
theorem Grants.distinct (h : w.Grants w') (hdistinct : w.inventory.Distinct) :
    w'.inventory.Distinct := by
  obtain ⟨items, hitems⟩ := h
  rw [hitems]
  exact hdistinct.includingAll items

/-- A command grants at most an item. -/
theorem grants_run (w : World) (raw : String) : w.Grants (w.run raw).value.2 := by
  rcases w.run_cases raw with ⟨err, -, hvalue, -⟩ | ⟨c, a, -, -, hvalue, -⟩ | ⟨id, -, hvalue, -⟩
  · rw [hvalue]
    exact .refl w
  · rw [hvalue]
    exact grants_of_inventory_eq rfl
  · rw [hvalue]
    exact ⟨[id], rfl⟩

end World

namespace Engine

variable {e : Engine}

/-! ### Phases -/

/-- Commands do nothing to the items but grant some. -/
theorem grants_runCommands (e : Engine) (commands : List String) :
    e.world.Grants (e.runCommands commands).value.world := by
  induction commands generalizing e with
  | nil => exact .refl _
  | cons raw rest ih =>
    rw [value_runCommands_cons]
    exact (e.world.grants_run raw).trans (ih { e with world := (e.world.run raw).value.2 })

/-- Impacts do not touch the items. -/
theorem grants_applyImpacts (e : Engine) (node : Node) (impacts : List Impact) :
    e.world.Grants (e.applyImpacts node impacts).value.world := by
  induction impacts generalizing e with
  | nil => exact .refl _
  | cons i rest ih =>
    rw [value_applyImpacts_cons]
    exact .trans (World.grants_of_inventory_eq rfl)
      (ih (e.inStore (impactStep e.world.store i).value))

theorem grants_enter (e : Engine) (tree : IndexedTree) (node : Node) :
    e.world.Grants (e.enter tree node).value.world := by
  simp only [enter, Told.value_bind, world_announceNode]
  exact grants_runCommands { e with active := some ⟨tree, node.id⟩ } node.startCommands

/-- Going on to a node grants what its commands grant. -/
theorem grants_showNode (e : Engine) (tree : IndexedTree) (name : Option String) :
    e.world.Grants (e.showNode tree name).value.world := by
  rw [showNode, Told.value_bind]
  rcases name with - | name
  · rw [world_endDialogue, world_cancelPendingEnd]
    exact .refl _
  · dsimp only
    rcases tree.node? name with - | node
    · simp only [Told.value_bind, world_endDialogue, world_cancelPendingEnd]
      exact .refl _
    · have hentered := grants_enter e.cancelPendingEnd.value tree node
      rwa [world_cancelPendingEnd] at hentered

/-- Taking a choice grants what the commands on the way grant. -/
theorem grants_take (e : Engine) (tree : IndexedTree) (node : Node) (choice : Choice)
    (index : Nat) : e.world.Grants (e.take tree node choice index).value.world := by
  simp only [take, Told.value_bind]
  exact (e.grants_applyImpacts node choice.impacts).trans
    ((grants_runCommands _ node.endCommands).trans (grants_showNode _ tree choice.nextNode))

theorem grants_leave (e : Engine) (tree : IndexedTree) (node : Node) :
    e.world.Grants (e.leave tree node).value.world := by
  rw [leave]
  rcases node.autoNext with - | next
  · simp only [Told.value_bind, world_endDialogue]
    exact .refl _
  · rw [Told.value_bind]
    exact (e.grants_runCommands node.endCommands).trans (grants_showNode _ tree (some next))

/-! ### Calls -/

section Calls

variable {call : Told Notice (Except DialogueError Unit × Engine)}

/-- A refused call grants nothing. -/
theorem Refused.grants {err : DialogueError} (h : Refused e call err) :
    e.world.Grants call.value.2.world := by
  rw [h.value]
  exact .refl _

/-- A call that is carried out grants what its phase does. -/
theorem CarriedOut.grants {phase : Told Notice Engine} (h : CarriedOut call phase)
    (hphase : e.world.Grants phase.value.world) : e.world.Grants call.value.2.world := by
  rw [h.value]
  exact hphase

theorem grants_startAt (e : Engine) (tree : IndexedTree) (name : String) :
    e.world.Grants (e.startAt tree name).value.2.world := by
  rcases e.startAt_cases tree name with ⟨-, h⟩ | ⟨node, -, h⟩
  · exact h.grants
  · exact h.grants (e.grants_showNode tree (some node.id))

theorem grants_start (e : Engine) (tree : IndexedTree) :
    e.world.Grants (e.start tree).value.2.world := by
  rcases e.start_cases tree with ⟨-, h⟩ | ⟨name, -, h⟩
  · exact h.grants
  · rw [h]
    exact e.grants_startAt tree name

theorem grants_resumeAt (e : Engine) (tree : IndexedTree) (name : String) :
    e.world.Grants (e.resumeAt tree name).value.2.world := by
  rcases e.resumeAt_cases tree name with ⟨-, h⟩ | ⟨node, -, h⟩
  · exact h.grants
  · refine h.grants ?_
    rw [(e.resume_spec tree node).2.1]
    exact .refl _

theorem grants_select (e : Engine) (index : Nat) :
    e.world.Grants (e.select index).value.2.world := by
  rcases e.select_cases index with ⟨err, -, h⟩ | ⟨tree, node, -, ⟨-, h⟩ | ⟨i, choice, -, h⟩⟩
  · exact h.grants
  · exact h.grants
  · exact h.grants (e.grants_take tree node choice index)

theorem grants_advance (e : Engine) : e.world.Grants e.advance.value.2.world := by
  rcases e.advance_cases with ⟨err, -, h⟩ | ⟨tree, node, -, ⟨-, h⟩ | ⟨-, h⟩⟩
  · exact h.grants
  · exact h.grants
  · exact h.grants (e.grants_leave tree node)

theorem grants_forceEnd (e : Engine) : e.world.Grants e.forceEnd.value.2.world := by
  rw [forceEnd]
  split
  · simp only [Told.value_bind, Told.value_pure, world_endDialogue]
    exact .refl _
  · exact .refl _

end Calls

/-- Time that passes grants nothing: at most, the dialogue closes. -/
theorem grants_update (he : e.Coherent) (elapsed : Duration) :
    e.world.Grants (e.update elapsed).value.world := by
  rcases update_spec he elapsed with ⟨-, schedule, hupdate, -⟩ | ⟨-, schedule, hvalue, -⟩
  · rw [hupdate]
    exact .refl _
  · rw [hvalue]
    exact .refl _

end Engine

end Storyline
