import Storyline.Proofs.Dialogue.Choosing
import Storyline.Proofs.Session.Store

/-!
# What the effect of a command tells

Running a text has an effect exactly if it is a command, and the effect tells all that happened.
Without one nothing did. If the command was applied, it assigned a value to one variable
(`Command.assignment?`): one entry of the store has changed at most, and each listener heard of it
once (`World.Assigned`). If an item was granted, the store was left alone.

The variable is never one with a blank name, whose assignment the store would refuse without a
word to anybody: what is read as a name has no blanks around it and is not empty
(`Command.Named.not_blank`).
-/

namespace Storyline

/-! ### Assignments -/

/-- A value for a single variable, before it is held within its bounds. -/
structure Assignment where
  /-- The kind of the variable. -/
  kind : Kind
  /-- Its name, in any spelling. -/
  key : String
  /-- The value. -/
  value : kind.Value

namespace Assignment

/-- The change that is made in a store when the value is assigned. -/
def change (a : Assignment) (s : Store) : Change :=
  a.kind.change (foldName a.key) (s.keptAs a.kind (foldName a.key) a.value)

end Assignment

/-- What a command assigns in a store. Granting an item assigns nothing. -/
def Command.assignment? (s : Store) : Command → Option Assignment
  | .giveItem _ => none
  | .setFlag name => some ⟨.bool, name, true⟩
  | .clearFlag name => some ⟨.bool, name, false⟩
  | .adjustVar key delta => some ⟨.int, key, saturatingAdd (s.getInt key) delta⟩
  | .recordEnding label => some ⟨.text, World.endingKey, label⟩

/-- A command that was read does not assign to a blank name. -/
theorem Command.Named.assignment_not_blank {c : Command} (h : c.Named) {s : Store} {a : Assignment}
    (ha : c.assignment? s = some a) : Text.isBlankText a.key = false := by
  cases c with
  | giveItem id => cases ha
  | setFlag name | clearFlag name | adjustVar name delta =>
    cases ha
    exact h.not_blank
  | recordEnding label =>
    have hending : Text.isBlankText World.endingKey = false := by decide
    cases ha
    exact hending

namespace World

variable {w : World} {raw : String}

/-- A world after an assignment, in which the variable has the value that was kept: of the entries
of the store only this one may differ. -/
structure Assigned (w : World) (a : Assignment) (kept : a.kind.Value) (after : World) : Prop where
  /-- The variable has the value. -/
  entry : (after.store.contents.part a.kind).get? (foldName a.key) = some kept
  /-- The other variables of its kind are as they were. -/
  others : ∀ key, key ≠ foldName a.key →
    (after.store.contents.part a.kind).get? key = (w.store.contents.part a.kind).get? key
  /-- So are those of the other kinds. -/
  kinds : ∀ kind, kind ≠ a.kind → after.store.contents.part kind = w.store.contents.part kind
  /-- All besides the values is as it was, the items among it. -/
  rest : after = { w with store := { w.store with contents := after.store.contents } }

/-- Keeping a value under the normal form of its key is the assignment of that value. -/
theorem assigned_keeping (w : World) (a : Assignment) (kept : a.kind.Value) :
    w.Assigned a kept
      { w with store := w.store.keeping (a.kind.change (foldName a.key) kept) } where
  entry := by
    rw [Store.keeping, Contents.part_hear, KeyMap.get?_insert, if_pos rfl]
  others key hkey := by
    rw [Store.keeping, Contents.part_hear, KeyMap.get?_insert, if_neg hkey]
  kinds _ hkind := Store.part_keeping hkind w.store _ _
  rest := rfl

/-! ### Running a text -/

/-- The effect of a text: none if it is no command, else that of the command. -/
theorem effect_run (w : World) (raw : String) :
    (w.run raw).value.1 =
      match Command.parse raw with
      | .error _ => none
      | .ok (.giveItem id) => some (.itemGiven id)
      | .ok _ => some .applied := by
  rw [run]
  rcases Command.parse raw with err | c
  · rfl
  · cases c <;> rfl

/-- A command that assigns makes the change of its assignment. -/
theorem obeyed_of_assignment {c : Command} (hparse : Command.parse raw = .ok c) {a : Assignment}
    (ha : c.assignment? w.store = some a) : w.obeyed raw = w.changed (a.change w.store) := by
  have hkey := (Command.named_of_parse hparse).assignment_not_blank ha
  rw [obeyed, hparse]
  cases c with
  | giveItem id => cases ha
  | setFlag name | clearFlag name =>
    cases ha
    rfl
  | adjustVar key delta =>
    cases ha
    -- the sum is of what is read under the name as it was authored
    simp only [Assignment.change, Store.keptAs, Kind.change, Store.addition,
      Store.getInt_foldName hkey]
  | recordEnding label =>
    have hfold : foldName endingKey = endingKey := by decide +kernel
    cases ha
    simp only [Assignment.change, hfold]
    rfl

/-- What the store announces when a text is run, read off the step that the text stands for. -/
theorem notices_run (w : World) (raw : String) :
    (w.run raw).notices = changesOf (w.obeyed raw).notices := by
  have hgrant : changesOf (Engine.grantNotices (w.run raw).value.1) = [] :=
    Engine.changesOf_grantNotices _
  rw [← (w.run_spec raw).1, changesOf_append, changesOf_map_change, hgrant, List.append_nil]

/-- Running a text goes one of three ways. -/
theorem run_cases (w : World) (raw : String) :
    (∃ err, Command.parse raw = .error err ∧ (w.run raw).value = (none, w) ∧
        (w.run raw).notices = []) ∨
      (∃ c a, Command.parse raw = .ok c ∧ c.assignment? w.store = some a ∧
        (w.run raw).value =
          (some .applied, { w with store := w.store.keeping (a.change w.store) }) ∧
        (w.run raw).notices = [a.change w.store]) ∨
      ∃ id, Command.parse raw = .ok (.giveItem id) ∧
        (w.run raw).value =
          (some (.itemGiven id), { w with inventory := w.inventory.including id }) ∧
        (w.run raw).notices = [] := by
  have heffect := w.effect_run raw
  have hworld := (w.run_spec raw).2
  have hnotices := w.notices_run raw
  rcases hparse : Command.parse raw with err | c
  · rw [hparse] at heffect
    rw [obeyed, hparse] at hworld hnotices
    exact .inl ⟨err, rfl, Prod.ext heffect hworld, hnotices⟩
  · rw [hparse] at heffect
    rcases hassigned : c.assignment? w.store with - | a
    · cases c with
      | giveItem id =>
        rw [obeyed, hparse] at hworld hnotices
        exact .inr (.inr ⟨id, rfl, Prod.ext heffect hworld, hnotices⟩)
      | _ => cases hassigned
    · rw [obeyed_of_assignment hparse hassigned] at hworld hnotices
      have happlied : (w.run raw).value.1 = some .applied := by
        cases c with
        | giveItem id => cases hassigned
        | _ => exact heffect
      exact .inr (.inl ⟨c, a, rfl, hassigned, Prod.ext happlied hworld, hnotices⟩)

/-- What is heard when a text is run and there are listeners of the store. -/
def heardOf {τ : Type} (w : World) (listeners : Registry τ) (raw : String) : List (Heard τ) :=
  let audience : Audience τ := { store := listeners }
  audience.hear ((w.run raw).mapNotices Notice.change).signals

/-- What the listeners of a registry hear of a command are the changes that it announces. -/
theorem deliveries_heardOf {τ : Type} (w : World) (listeners : Registry τ) (raw : String) :
    (w.heardOf listeners raw).filterMap Heard.delivery? =
      (w.run raw).notices.flatMap listeners.deliveries :=
  Audience.deliveries_hear { store := listeners } (w.run raw)

end World

/-! ### Items -/

namespace Inventory

/-- An item that was granted is held. -/
theorem contains_including (inv : Inventory) (item : String) :
    (inv.including item).contains item = true := by
  rw [including]
  split
  · assumption
  · rw [contains, List.any_append, List.any_cons, Text.sameText_refl, Bool.true_or, Bool.or_true]

/-- Granting an item leaves those that were held before in their places. -/
theorem prefix_including (inv : Inventory) (item : String) :
    inv.items <+: (inv.including item).items := by
  rw [including]
  split
  · exact List.prefix_rfl
  · exact List.prefix_append _ _

end Inventory

/-! ### In a session -/

namespace Session

/-- The effect of a text tells what running it has done. There is none exactly if the text is no
command, and then nothing was done or heard of. If it was applied, the items are as they were, one
variable was assigned its value, and each listener heard of that once. If it granted an item, the
item is held behind those that were held before, and nothing became of the store. -/
theorem effect_tells (x : Session) {τ : Type} (listeners : Registry τ) (raw : String) :
    let w := x.engine.world
    let effect := (w.run raw).value.1
    let after := (w.run raw).value.2
    let delivered := (w.heardOf listeners raw).filterMap Heard.delivery?
    (effect = none ↔ ∃ err, Command.parse raw = .error err) ∧
      (effect = none → after = w ∧ delivered = []) ∧
      (effect = some .applied → after.inventory = w.inventory ∧
        ∃ c a, Command.parse raw = .ok c ∧ c.assignment? w.store = some a ∧
          let kept := x.seeds.keepAs a.kind a.key a.value
          w.Assigned a kept after ∧
            delivered = listeners.deliveries (a.kind.change (foldName a.key) kept)) ∧
      ∀ id, effect = some (.itemGiven id) → Command.parse raw = .ok (.giveItem id) ∧
        after.store = w.store ∧ delivered = [] ∧ after.inventory.contains id = true ∧
          w.inventory.items <+: after.inventory.items := by
  intro w effect after delivered
  have hdelivered : delivered = (w.run raw).notices.flatMap listeners.deliveries :=
    w.deliveries_heardOf listeners raw
  rcases w.run_cases raw with ⟨err, hparse, hvalue, hnotices⟩ |
    ⟨c, a, hparse, ha, hvalue, hnotices⟩ | ⟨id, hparse, hvalue, hnotices⟩
  · have heffect : effect = none := congrArg Prod.fst hvalue
    have hafter : after = w := congrArg Prod.snd hvalue
    rw [hnotices] at hdelivered
    simp [heffect, hparse, hafter, hdelivered]
  · have heffect : effect = some .applied := congrArg Prod.fst hvalue
    have hafter : after = { w with store := w.store.keeping (a.change w.store) } :=
      congrArg Prod.snd hvalue
    have hkept : a.change w.store =
        a.kind.change (foldName a.key) (x.seeds.keepAs a.kind a.key a.value) := by
      rw [Assignment.change, x.from_seeds.keptAs_eq]
    rw [hnotices, hkept, List.flatMap_singleton] at hdelivered
    rw [hkept] at hafter
    refine ⟨by simp [heffect, hparse], by simp [heffect], fun _ ↦ ?_, by simp [heffect]⟩
    rw [hafter]
    exact ⟨rfl, c, a, hparse, ha, w.assigned_keeping a _, hdelivered⟩
  · have heffect : effect = some (.itemGiven id) := congrArg Prod.fst hvalue
    have hafter : after = { w with inventory := w.inventory.including id } :=
      congrArg Prod.snd hvalue
    rw [hnotices] at hdelivered
    refine ⟨by simp [heffect, hparse], by simp [heffect], by simp [heffect], fun item hitem ↦ ?_⟩
    obtain rfl : id = item := by simpa [heffect] using hitem
    rw [hafter]
    exact ⟨hparse, rfl, hdelivered, w.inventory.contains_including id,
      w.inventory.prefix_including id⟩

/-- The daring session, with two items. -/
def equipped : Session := { daring with inventory := ⟨["Lantern", "rope"]⟩ }

/-- An adjustment is held within the bounds of luck, an item that is held already is not held twice,
and a switch without a name is no command. -/
theorem effect_tells_equipped :
    let w := equipped.engine.world
    let adjusted := w.run " VAR: Luck + 25 "
    let granted := w.run "item:LANTERN"
    adjusted.value.1 = some .applied ∧ adjusted.value.2.inventory = w.inventory ∧
      (adjusted.value.2.store.contents.part .int).get? "luck" = some (10 : Int32) ∧
      (w.heardOf twoListeners.store " VAR: Luck + 25 ").filterMap Heard.delivery? =
        [(false, .int "luck" 10), (true, .int "luck" 10)] ∧
      granted.value.1 = some (.itemGiven "LANTERN") ∧ granted.value.2.store = w.store ∧
      granted.value.2.inventory.contains "LANTERN" = true ∧
      (w.run "flag:\t").value.1 = none ∧ (w.run "flag:\t").value.2 = w := by
  intro w adjusted granted
  have hluck : foldName "Luck" = "luck" := by decide +kernel
  obtain ⟨-, -, hadjusted, -⟩ := equipped.effect_tells twoListeners.store " VAR: Luck + 25 "
  obtain ⟨-, -, -, hgranted⟩ := equipped.effect_tells twoListeners.store "item:LANTERN"
  obtain ⟨-, hskipped, -, -⟩ := equipped.effect_tells twoListeners.store "flag:\t"
  have happlied : adjusted.value.1 = some .applied := by decide +kernel
  have hgiven : granted.value.1 = some (.itemGiven "LANTERN") := by decide +kernel
  have hnone : (w.run "flag:\t").value.1 = none := by decide +kernel
  obtain ⟨hitems, c, a, hparse, ha, hassigned, hheard⟩ := hadjusted happlied
  have hcommand : Command.parse " VAR: Luck + 25 " = .ok (.adjustVar "Luck" 25) := by rfl
  obtain rfl : .adjustVar "Luck" 25 = c := Except.ok.inj (hcommand.symm.trans hparse)
  cases ha
  -- what is kept of the sum, by the rules for luck
  have hclamped : (Bounds.rulesFor (Bounds.sanity :: equipped.seeds.bounds)
      (foldName "Luck")).foldl (fun v b ↦ b.clamp v)
        (saturatingAdd (w.store.getInt "Luck") 25) = 10 := by
    decide +kernel
  have hkept : equipped.seeds.keepAs .int "Luck" (saturatingAdd (w.store.getInt "Luck") 25) =
      (10 : Int32) := hclamped
  dsimp only at hassigned hheard
  have hentry := hassigned.entry
  dsimp only at hentry
  rw [hluck, hkept] at hentry hheard
  obtain ⟨-, hstore, -, hcontains, -⟩ := hgranted "LANTERN" hgiven
  exact ⟨happlied, hitems, hentry, hheard, hgiven, hstore, hcontains, hnone, (hskipped hnone).1⟩

end Session

end Storyline
