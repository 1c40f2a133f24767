import Storyline.Proofs.Session.Run

/-!
# Calls that are refused

A call of a dialogue that is refused has no effect but one warning in the log
(`Engine.refused_of_error`). Each call is gone through for this: wherever it is refused, it has not
changed the engine yet, and has logged at most conditions that could not be read.

When the two calls that go on from a node are refused is known exactly. The node on screen is
always found in its tree, so what decides is whether a dialogue is running and which choices are
visible (`Engine.answer_select`, `Engine.answer_advance`). `Session.refused_call` puts the two
together for every state that a session reaches.
-/

namespace Storyline

/-! ### The warning of a refused call -/

/-- How the warning of a refused call begins. -/
def refusalLead : String := "dialogue call refused: "

/-- Whether a record is the warning of a refused call. -/
def Record.isRefusal (r : Record) : Bool :=
  r.level == .warn && refusalLead.toList.isPrefixOf r.text.toList

/-- The warning of a refused call that a signal is, if it is one. -/
def Signal.refusal? {α : Type} : Signal α → Option Record
  | .log r => if r.isRefusal then some r else none
  | .notice _ => none

/-- The warnings of refused calls among signals. -/
def refusals {α : Type} (signals : List (Signal α)) : List Record :=
  signals.filterMap Signal.refusal?

theorem refusals_append {α : Type} (ss ts : List (Signal α)) :
    refusals (ss ++ ts) = refusals ss ++ refusals ts := List.filterMap_append

/-- The warning of a refused call is told by how it begins. -/
theorem isRefusal_warning (text : String) :
    (⟨.warn, "dialogue call refused: " ++ text⟩ : Record).isRefusal = true := by
  simp [Record.isRefusal, refusalLead]

/-- A condition that cannot be read is logged, but that is no refusal. -/
theorem refusals_evaluateOptional {α : Type} (store : Store) (c : Option String) :
    refusals (Condition.evaluateOptional store c : Told α Bool).signals = [] := by
  rcases c with - | expression
  · rfl
  · rw [Condition.evaluateOptional, Condition.evaluate]
    rcases Condition.parse expression with err | c
    · rw [Told.signals_bind, refusals_append]
      simp [refusals, Told.log, Signal.refusal?, Record.isRefusal, refusalLead]
    · rfl

/-- Looking for visible choices warns of conditions only. -/
theorem refusals_visibleFrom {α : Type} (store : Store) (i : Nat) (cs : List Choice) :
    refusals (visibleFrom store i cs : Told α (List (Nat × Choice))).signals = [] := by
  induction cs generalizing i with
  | nil => rfl
  | cons c cs ih =>
    rw [visibleFrom, Told.signals_bind, refusals_append, refusals_evaluateOptional,
      Told.signals_bind, refusals_append, ih]
    rfl

namespace Engine

variable {e : Engine}

/-! ### Calls as data -/

/-- A call of a dialogue, which may be refused. -/
inductive Call where
  /-- Starts a tree at the node that it names. -/
  | start (tree : IndexedTree)
  /-- Starts a tree at the node with a name. -/
  | startAt (tree : IndexedTree) (name : String)
  /-- Starts a tree at one of its nodes. -/
  | startAtNode (tree : IndexedTree) (node : Node)
  /-- Puts a saved dialogue back on a node. -/
  | resumeAt (tree : IndexedTree) (name : String)
  /-- Takes the visible choice at a place. -/
  | select (index : Nat)
  /-- Goes on where there are no visible choices. -/
  | advance

/-- Makes a call. -/
def call (e : Engine) : Call → Told Notice (Except DialogueError Unit × Engine)
  | .start tree => e.start tree
  | .startAt tree name => e.startAt tree name
  | .startAtNode tree node => e.startAtNode tree node
  | .resumeAt tree name => e.resumeAt tree name
  | .select index => e.select index
  | .advance => e.advance

/-! ### What is left of a refused call -/

/-- If a call is refused, then all that comes of it is the warning of its one refusal. -/
def RefusesQuietly (e : Engine) (call : Told Notice (Except DialogueError Unit × Engine)) :
    Prop :=
  ∀ err, call.value.1 = .error err →
    Refused e call err ∧
      refusals call.signals = [⟨.warn, "dialogue call refused: " ++ err.message⟩]

/-- A refusal is all that comes of it. -/
theorem refusesQuietly_refuse (e : Engine) (err : DialogueError) :
    RefusesQuietly e (e.refuse err) := by
  intro err' h
  obtain rfl : err = err' := Except.error.inj h
  refine ⟨e.refused_refuse err, ?_⟩
  have hsignals : (e.refuse err).signals =
      [.log ⟨.warn, "dialogue call refused: " ++ err.message⟩] := rfl
  rw [hsignals]
  simp [refusals, Signal.refusal?, isRefusal_warning]

/-- What is carried out has been refused at no place. -/
theorem refusesQuietly_carryOut (x : Told Notice Engine) : RefusesQuietly e (carryOut x) := by
  intro err h
  rw [carryOut, Told.value_bind] at h
  cases h

/-- Looking for the visible choices first adds nothing to a refusal: a condition that cannot be
read is logged, but it is not among the refusals. -/
theorem RefusesQuietly.visible {node : Node} {store : Store}
    {call : List (Nat × Choice) → Told Notice (Except DialogueError Unit × Engine)}
    (h : ∀ shown, RefusesQuietly e (call shown)) :
    RefusesQuietly e (node.visible store >>= call) := by
  intro err herr
  rw [Told.value_bind] at herr
  obtain ⟨hrefused, hrefusals⟩ := h _ err herr
  refine ⟨hrefused.after (node.notices_visible store), ?_⟩
  rw [Told.signals_bind, refusals_append, hrefusals, Node.visible, refusals_visibleFrom,
    List.nil_append]

/-- Starting at a node that the tree does not have is refused quietly. -/
theorem refusesQuietly_startAt (e : Engine) (tree : IndexedTree) (name : String) :
    RefusesQuietly e (e.startAt tree name) := by
  rw [startAt]
  rcases tree.node? name with - | node
  · exact e.refusesQuietly_refuse _
  · exact refusesQuietly_carryOut _

theorem refusesQuietly_start (e : Engine) (tree : IndexedTree) :
    RefusesQuietly e (e.start tree) := by
  rw [start]
  rcases tree.tree.startNode with - | name
  · exact e.refusesQuietly_refuse _
  · exact e.refusesQuietly_startAt tree name

theorem refusesQuietly_resumeAt (e : Engine) (tree : IndexedTree) (name : String) :
    RefusesQuietly e (e.resumeAt tree name) := by
  rw [resumeAt]
  rcases tree.node? name with - | node
  · exact e.refusesQuietly_refuse _
  · exact refusesQuietly_carryOut _

theorem refusesQuietly_select (e : Engine) (index : Nat) :
    RefusesQuietly e (e.select index) := by
  rw [select]
  rcases e.activeNode with err | ⟨tree, node⟩
  · exact e.refusesQuietly_refuse err
  · refine .visible fun shown ↦ ?_
    rcases shown[index]? with - | ⟨i, choice⟩
    · exact e.refusesQuietly_refuse _
    · exact refusesQuietly_carryOut _

theorem refusesQuietly_advance (e : Engine) : RefusesQuietly e e.advance := by
  rw [advance]
  rcases e.activeNode with err | ⟨tree, node⟩
  · exact e.refusesQuietly_refuse err
  · refine .visible fun shown ↦ ?_
    by_cases hpending : 0 < shown.length
    · simpa only [if_pos hpending] using e.refusesQuietly_refuse _
    · simpa only [if_neg hpending] using refusesQuietly_carryOut _

/-- A refused call leaves the engine as it was, announces nothing, and logs one warning of its
refusal. -/
theorem refused_of_error {c : Call} {err : DialogueError}
    (h : (e.call c).value.1 = .error err) :
    Refused e (e.call c) err ∧
      refusals (e.call c).signals = [⟨.warn, "dialogue call refused: " ++ err.message⟩] := by
  cases c with
  | start tree => exact e.refusesQuietly_start tree err h
  | startAt tree name => exact e.refusesQuietly_startAt tree name err h
  | startAtNode tree node => exact e.refusesQuietly_startAt tree node.id err h
  | resumeAt tree name => exact e.refusesQuietly_resumeAt tree name err h
  | select index => exact e.refusesQuietly_select index err h
  | advance => exact e.refusesQuietly_advance err h

/-! ### When going on is refused -/

/-- The visible choices of the node on screen, with their authored positions. -/
def shown (e : Engine) : List (Nat × Choice) :=
  (e.visibleChoices : Told Empty (List (Nat × Choice))).value

/-- An engine that is idle has no active node. -/
theorem activeNode_of_idle (h : e.isActive = false) : e.activeNode = .error .notActive := by
  rw [isActive, Option.isSome_eq_false_iff, Option.isNone_iff_eq_none] at h
  rw [activeNode, h]

/-- A running dialogue has its node, and what is shown are the visible choices of that node. -/
theorem Coherent.activeNode_of_active (he : e.Coherent) (h : e.isActive = true) :
    ∃ tree node, e.activeNode = .ok (tree, node) ∧ e.shown = node.shown e.world.store := by
  obtain ⟨a, ha⟩ := Option.isSome_iff_exists.mp h
  obtain ⟨node, hnode, -⟩ := he.active a ha
  refine ⟨a.tree, node, ?_, ?_⟩
  · rw [activeNode, ha]
    simp only [hnode]
  · rw [shown, visibleChoices, currentNode?, ha, Option.bind_some, hnode]
    rfl

/-- Taking a choice is refused if no dialogue is running or there is no visible choice at the
place. -/
theorem answer_select (he : e.Coherent) (index : Nat) :
    (e.select index).value.1 =
      if e.isActive then
        if index < e.shown.length then .ok () else .error (.invalidChoice index e.shown.length)
      else .error .notActive := by
  rcases hactive : e.isActive with - | -
  · rw [select, activeNode_of_idle hactive]
    rfl
  · obtain ⟨tree, node, hnode, hshown⟩ := he.activeNode_of_active hactive
    rw [hshown]
    rcases e.select_cases index with ⟨err, herr, -⟩ | ⟨tree', node', hok, hcases⟩
    · rw [hnode] at herr
      cases herr
    · obtain ⟨rfl, rfl⟩ : tree = tree' ∧ node = node' := by simpa [hnode] using hok
      rcases hcases with ⟨hnone, h⟩ | ⟨i, choice, hchoice, h⟩
      · have hle := List.getElem?_eq_none_iff.mp hnone
        rw [h.value, if_pos rfl, if_neg (by omega)]
      · have hlt := (List.getElem?_eq_some_iff.mp hchoice).1
        rw [h.value, if_pos rfl, if_pos hlt]

/-- Going on without a choice is refused if no dialogue is running or a choice is visible. -/
theorem answer_advance (he : e.Coherent) :
    e.advance.value.1 =
      if e.isActive then
        if e.shown = [] then .ok () else .error (.choicesPending e.shown.length)
      else .error .notActive := by
  rcases hactive : e.isActive with - | -
  · rw [advance, activeNode_of_idle hactive]
    rfl
  · obtain ⟨tree, node, hnode, hshown⟩ := he.activeNode_of_active hactive
    rw [hshown]
    rcases e.advance_cases with ⟨err, herr, -⟩ | ⟨tree', node', hok, hcases⟩
    · rw [hnode] at herr
      cases herr
    · obtain ⟨rfl, rfl⟩ : tree = tree' ∧ node = node' := by simpa [hnode] using hok
      rcases hcases with ⟨hsome, h⟩ | ⟨hnone, h⟩
      · rw [h.value, if_pos rfl, if_neg hsome]
      · rw [h.value, if_pos rfl, if_pos hnone]

end Engine

/-! ### In a session -/

namespace Session

/-- A call that is refused in a session changes nothing, announces nothing and logs one warning of
its refusal. Taking a choice succeeds exactly if a dialogue is running and the place is among the
visible choices, and going on without one exactly if a dialogue is running and no choice is
visible; neither ever misses the node on screen. -/
theorem refused_call (x : Session) :
    (∀ (c : Engine.Call) (err : DialogueError), (x.engine.call c).value.1 = .error err →
      (x.engine.call c).value.2 = x.engine ∧ (x.engine.call c).notices = [] ∧
        refusals (x.engine.call c).signals =
          [⟨.warn, "dialogue call refused: " ++ err.message⟩]) ∧
      (∀ index, (x.engine.select index).value.1 = .ok () ↔
        x.engine.isActive = true ∧ index < x.engine.shown.length) ∧
      (x.engine.advance.value.1 = .ok () ↔ x.engine.isActive = true ∧ x.engine.shown = []) ∧
      ∀ tree node, (∀ index, (x.engine.select index).value.1 ≠ .error (.nodeNotFound tree node)) ∧
        x.engine.advance.value.1 ≠ .error (.nodeNotFound tree node) := by
  have hadvance := Engine.answer_advance x.coherent
  refine ⟨fun c err h ↦ ?_, fun index ↦ ?_, ?_, fun tree node ↦ ⟨fun index ↦ ?_, ?_⟩⟩
  · obtain ⟨hrefused, hwarning⟩ := Engine.refused_of_error h
    rw [hrefused.value]
    exact ⟨rfl, hrefused.notices, hwarning⟩
  · rw [Engine.answer_select x.coherent index]
    grind
  · rw [hadvance]
    grind
  · rw [Engine.answer_select x.coherent index]
    grind
  · rw [hadvance]
    grind

/-- The door is on screen and about to close, without a visible choice, when one is taken. -/
theorem refused_call_door :
    ((engine { ops := [.start doorTree] }).call (.select 0)).value.1 =
        .error (.invalidChoice 0 0) ∧
      ((engine { ops := [.start doorTree] }).call (.select 0)).value.2 =
        engine { ops := [.start doorTree] } ∧
      refusals ((engine { ops := [.start doorTree] }).call (.select 0)).signals =
        [⟨.warn, "dialogue call refused: invalid choice 0 (0 visible)"⟩] := by
  have herror : ((engine { ops := [.start doorTree] }).call (.select 0)).value.1 =
      .error (.invalidChoice 0 0) := rfl
  obtain ⟨hsame, -, hwarning⟩ := (refused_call { ops := [.start doorTree] }).1 _ _ herror
  refine ⟨herror, hsame, hwarning.trans ?_⟩
  decide +kernel

end Session

end Storyline
