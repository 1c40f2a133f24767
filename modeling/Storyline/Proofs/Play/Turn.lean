import Storyline.Play.Turn
import Storyline.Proofs.Dialogue.Choosing
import Storyline.Proofs.Play.Quiet
import Storyline.Proofs.Saved.Restore
import Storyline.Proofs.Session.Refusal
import Storyline.Proofs.Session.Ticking

/-!
# What a turn of the player does

A turn is one of three things. Where a lone choice is taken without asking
(`Play.TakesLoneChoice`), no line is used up. Where an end node is waited out, the dialogue ends.
Everything else asks for a line: at the end of the input the dialogue ends, and otherwise there is
one line less to be typed (`Play.follow_turn_of_not_lone`).

Turns keep what the engine relies on, and they do not leave the tree that is played
(`Engine.PlaysIn`): links lead to nodes of the same tree, and a saved game is put back only in the
tree at hand. So a lone choice that is taken is never refused.
-/

namespace Storyline

namespace Engine

variable {e : Engine} {tree : IndexedTree}

/-! ### Staying in a tree -/

/-- A dialogue that is running is one of the tree. -/
def StaysIn (tree : IndexedTree) (e : Engine) : Prop := ∀ a, e.active = some a → a.tree = tree

/-- An engine that is idle stays in every tree. -/
theorem staysIn_of_idle (h : e.active = none) : e.StaysIn tree := by
  intro a ha
  rw [h] at ha
  cases ha

/-- Going to a node stays in its tree. -/
theorem staysIn_showNode (e : Engine) (tree : IndexedTree) (name : Option String) :
    (e.showNode tree name).value.StaysIn tree := by
  rw [showNode, Told.value_bind]
  rcases name with - | name
  · exact staysIn_of_idle (active_endDialogue _)
  · dsimp only
    rcases tree.node? name with - | node
    · exact staysIn_of_idle (active_endDialogue _)
    · intro a ha
      obtain ⟨-, hactive, -⟩ := e.cancelPendingEnd.value.enter_spec tree node
      rw [hactive] at ha
      cases ha
      rfl

theorem staysIn_leave (e : Engine) (tree : IndexedTree) (node : Node) :
    (e.leave tree node).value.StaysIn tree := by
  rw [leave]
  rcases node.autoNext with - | next
  · exact staysIn_of_idle (active_endDialogue _)
  · exact staysIn_showNode _ tree (some next)

/-- The parts of an engine agree, and a dialogue that is running is one of the tree. -/
structure PlaysIn (tree : IndexedTree) (e : Engine) : Prop where
  coherent : e.Coherent
  staysIn : e.StaysIn tree

variable {call : Told Notice (Except DialogueError Unit × Engine)}

/-- A call that is refused stays where it was. -/
theorem Refused.staysIn {err : DialogueError} (h : Refused e call err) (he : e.StaysIn tree) :
    call.value.2.StaysIn tree := by
  rw [h.value]
  exact he

/-- A call that is carried out stays in the tree of its phase. -/
theorem CarriedOut.staysIn {phase : Told Notice Engine} (h : CarriedOut call phase)
    (hphase : phase.value.StaysIn tree) : call.value.2.StaysIn tree := by
  rw [h.value]
  exact hphase

/-- The node on screen is one of the tree. -/
theorem StaysIn.eq_of_activeNode (h : e.StaysIn tree) {t : IndexedTree} {node : Node}
    (hnode : e.activeNode = .ok (t, node)) : t = tree := by
  rw [activeNode] at hnode
  split at hnode
  · cases hnode
  · rename_i a ha
    split at hnode
    · cases hnode
    · cases hnode
      exact h a ha

/-- Whatever became of an engine, its parts agree still. -/
theorem PlaysIn.andThen {notices : List Notice} {e' : Engine} (h : e.PlaysIn tree)
    (houtcome : Outcome false e notices e' ∧ e'.schedule.Sound) (hstays : e'.StaysIn tree) :
    e'.PlaysIn tree :=
  ⟨houtcome.1.coherent h.coherent houtcome.2, hstays⟩

/-- Starting the tree plays in it. -/
theorem PlaysIn.start (h : e.PlaysIn tree) : (e.start tree).value.2.PlaysIn tree := by
  refine h.andThen (outcome_start false h.coherent.schedule h.coherent.timed tree) ?_
  rcases e.start_cases tree with ⟨-, hrefused⟩ | ⟨name, -, hstart⟩
  · exact hrefused.staysIn h.staysIn
  · rw [hstart]
    rcases e.startAt_cases tree name with ⟨-, hrefused⟩ | ⟨node, -, hdone⟩
    · exact hrefused.staysIn h.staysIn
    · exact hdone.staysIn (staysIn_showNode e tree _)

/-- Taking a choice plays on in the tree. -/
theorem PlaysIn.select (h : e.PlaysIn tree) (index : Nat) :
    (e.select index).value.2.PlaysIn tree := by
  refine h.andThen (outcome_select false h.coherent.schedule h.coherent.timed index) ?_
  rcases e.select_cases index with
    ⟨err, -, hrefused⟩ | ⟨t, node, hnode, ⟨-, hrefused⟩ | ⟨i, choice, -, hdone⟩⟩
  · exact hrefused.staysIn h.staysIn
  · exact hrefused.staysIn h.staysIn
  · rw [h.staysIn.eq_of_activeNode hnode] at hdone
    exact hdone.staysIn (staysIn_showNode _ tree choice.nextNode)

theorem PlaysIn.advance (h : e.PlaysIn tree) : e.advance.value.2.PlaysIn tree := by
  refine h.andThen (outcome_advance false h.coherent.schedule h.coherent.timed) ?_
  rcases e.advance_cases with ⟨err, -, hrefused⟩ | ⟨t, node, hnode, ⟨-, hrefused⟩ | ⟨-, hdone⟩⟩
  · exact hrefused.staysIn h.staysIn
  · exact hrefused.staysIn h.staysIn
  · rw [h.staysIn.eq_of_activeNode hnode] at hdone
    exact hdone.staysIn (staysIn_leave e tree node)

/-- An engine that a call leaves idle. -/
theorem PlaysIn.andIdle {notices : List Notice} {e' : Engine} (h : e.PlaysIn tree)
    (houtcome : Outcome false e notices e' ∧ e'.schedule.Sound) (hidle : e'.active = none) :
    e'.PlaysIn tree ∧ e'.isActive = false := by
  refine ⟨h.andThen houtcome (staysIn_of_idle hidle), ?_⟩
  rw [isActive, hidle, Option.isSome_none]

/-- Ending a dialogue by force leaves the engine idle. -/
theorem PlaysIn.forceEnd (h : e.PlaysIn tree) :
    e.forceEnd.value.2.PlaysIn tree ∧ e.forceEnd.value.2.isActive = false := by
  obtain ⟨schedule, hvalue, -⟩ := forceEnd_spec h.coherent
  exact h.andIdle (outcome_forceEnd false h.coherent.schedule h.coherent.timed) (by rw [hvalue])

/-- An end node that is waited out closes. -/
theorem PlaysIn.update_timeToEnd (h : e.PlaysIn tree) (hpending : e.pendingAutoEnd = true) :
    (e.update e.timeToEnd).value.PlaysIn tree ∧
      (e.update e.timeToEnd).value.isActive = false := by
  obtain ⟨-, hidle, -⟩ := update_timeToEnd_spec h.coherent hpending
  exact h.andIdle (outcome_update false h.coherent e.timeToEnd) hidle

/-- A snapshot is put back in the tree at hand, or nowhere. -/
theorem eq_of_position {s : Snapshot} {t : IndexedTree} {name : String}
    (h : s.position (some tree) = .ok (some (t, name))) : t = tree := by
  rw [Snapshot.position] at h
  split at h
  · dsimp only at h
    split at h
    · cases h
      rfl
    · cases h
  · cases h

/-- Putting back a snapshot over the tree plays in that tree. -/
theorem PlaysIn.apply (h : e.PlaysIn tree) (s : Snapshot) :
    (s.apply e (some tree)).value.2.PlaysIn tree := by
  refine h.andThen (Snapshot.outcome_apply false h.coherent s (some tree)) ?_
  obtain ⟨schedule, hrestored, -⟩ := Snapshot.restoreWorld_spec h.coherent s
  have hidle : (s.restoreWorld e).value.active = none := by rw [hrestored]
  rcases hposition : s.position (some tree) with err | - | ⟨t, name⟩
  · rw [Snapshot.apply_of_position_error hposition]
    exact h.staysIn
  · rw [(Snapshot.apply_of_no_position hposition e).1]
    exact staysIn_of_idle hidle
  · rw [(Snapshot.apply_of_position hposition e).1]
    rcases (s.restoreWorld e).value.resumeAt_cases t name with ⟨-, hrefused⟩ | ⟨node, -, hdone⟩
    · exact hrefused.staysIn (staysIn_of_idle hidle)
    · refine hdone.staysIn fun a ha ↦ ?_
      rw [((s.restoreWorld e).value.resume_spec t node).1] at ha
      cases ha
      exact eq_of_position hposition

end Engine

namespace Play

open Interaction Rehearsal

variable {lib : Libraries} {e : Engine} {tree : IndexedTree}

/-! ### Requests and answers -/

/-- Nothing is asked to show the answer of a call. -/
theorem quietly_showAnswer {answer : Except DialogueError Unit × Engine}
    (h : answer.2.PlaysIn tree) : (showAnswer answer).Quietly (Engine.PlaysIn tree) := by
  rcases answer with ⟨err | _, e⟩
  · exact quietly_sayLine_bind _ (quietly_pure h)
  · exact quietly_pure h

/-- A call is shown, and where it is refused, so is the message. -/
theorem quietly_call {call : Told Notice (Except DialogueError Unit × Engine)}
    (h : call.value.2.PlaysIn tree) :
    (shown lib call >>= showAnswer).Quietly (Engine.PlaysIn tree) :=
  Quietly.bind (quietly_shown h) fun _ ha ↦ quietly_showAnswer ha

theorem quietly_saveSnapshot (path : String) (s : Snapshot) :
    (saveSnapshot lib path s).Quietly fun _ ↦ True := by
  rw [saveSnapshot]
  rcases lib.writeSnapshot s with message | text
  · exact quietly_pure trivial
  · refine .makeDirectory fun made ↦ ?_
    rcases made with err | -
    · exact quietly_pure trivial
    · refine .write fun written ↦ ?_
      rcases written with err | -
      · exact quietly_pure trivial
      · exact quietly_pure trivial

/-- Nothing is asked to save a game. -/
theorem quietly_saveGame (e : Engine) (slot : String) :
    (saveGame lib e slot).Quietly fun _ ↦ True := by
  refine (quietly_saveSnapshot _ _).bind fun answer _ ↦ ?_
  rcases answer with causes | -
  · exact quietly_sayLine _
  · exact quietly_sayLine _

/-- Nothing is asked to put back a snapshot. -/
theorem quietly_applySnapshot (h : e.PlaysIn tree) (path : String) (s : Snapshot) :
    (applySnapshot lib tree e path s).Quietly (Engine.PlaysIn tree) := by
  have happly := h.apply s
  refine Quietly.bind (quietly_shown (P := fun a ↦ a.2.PlaysIn tree) happly) fun answer ha ↦ ?_
  rcases answer with ⟨err | _, after⟩
  · exact quietly_sayLine_bind _ (quietly_pure ha)
  · refine quietly_sayLine_bind _ ?_
    dsimp only at ha ⊢
    split
    · exact quietly_pure ha
    · exact quietly_call ha.start

/-- Nothing is asked to carry out a request, and the engine plays on in the tree. -/
theorem quietly_carryOut (h : e.PlaysIn tree) (request : Request) :
    (request.carryOut lib tree e).Quietly (Engine.PlaysIn tree) := by
  cases request with
  | quit => exact Quietly.bind (quietly_shown h.forceEnd.1) fun _ ha ↦ quietly_pure ha
  | save slot => exact (quietly_saveGame e slot).bind fun _ _ ↦ quietly_pure h
  | load slot =>
    refine .read fun file ↦ ?_
    dsimp only
    split
    · exact quietly_sayLine_bind _ (quietly_pure h)
    · exact quietly_applySnapshot h _ _

/-- Nothing is asked once a line is typed at a node without choices. -/
theorem quietly_continueWith (h : e.PlaysIn tree) (line : String) :
    (continueWith lib tree e line).Quietly (Engine.PlaysIn tree) := by
  delta continueWith
  split
  · exact quietly_carryOut h _
  · exact quietly_call h.advance

/-- Nothing is asked once a line is typed at a node with choices. -/
theorem quietly_chooseWith (h : e.PlaysIn tree) (line : String) :
    (chooseWith lib tree e line).Quietly (Engine.PlaysIn tree) := by
  delta chooseWith
  dsimp only
  split
  · exact quietly_carryOut h _
  · split
    · exact quietly_call (h.select _)
    · exact quietly_sayLine_bind _ (quietly_pure h)

/-! ### Turns -/

/-- The texts that are offered are those of the visible choices. -/
theorem choiceTexts_eq (e : Engine) : choiceTexts e = e.shown.map (·.2.text) := by
  rw [choiceTexts, Engine.shown, Engine.visibleChoices, Engine.visibleChoices]
  rcases e.currentNode? with - | node
  · rfl
  · simp

/-- Whether a turn takes a lone choice without asking. -/
def TakesLoneChoice (e : Engine) : Prop :=
  (choiceTexts e).length = 1 ∧ e.currentTree?.any (·.tree.autoAdvanceSingleChoice) = true

instance (e : Engine) : Decidable (TakesLoneChoice e) := inferInstanceAs (Decidable (_ ∧ _))

/-- A line is used up, or there is none any more and the dialogue ends. -/
theorem follow_answered (h : e.PlaysIn tree) (prompt : String) {use : String → Interaction Engine}
    (huse : ∀ line, (use line).Quietly (Engine.PlaysIn tree)) (r : Rehearsal) :
    (follow (answered lib e prompt use) r).1.PlaysIn tree ∧
      ((follow (answered lib e prompt use) r).1.isActive = false ∨
        (follow (answered lib e prompt use) r).2.lines.length < r.lines.length) := by
  rw [answered, follow_ask]
  rcases r.lines with - | ⟨line, rest⟩
  · have hquiet : (shown lib e.forceEnd >>= fun a ↦ pure a.2).Quietly
        fun e' ↦ e'.PlaysIn tree ∧ e'.isActive = false :=
      Quietly.bind (quietly_shown h.forceEnd) fun _ ha ↦ quietly_pure ha
    obtain ⟨⟨hplays, hidle⟩, -⟩ := follow_of_quietly hquiet { r.print prompt with lines := [] }
    exact ⟨hplays, .inl hidle⟩
  · obtain ⟨hplays, hrest⟩ :=
      follow_of_quietly (huse line) { r.print prompt with lines := rest }
    refine ⟨hplays, .inr ?_⟩
    dsimp only [List.head?_cons, List.tail_cons]
    rw [hrest, List.length_cons]
    exact Nat.lt_succ_self _

/-- A lone choice is taken: it is not refused, and no line is used up. -/
theorem follow_turn_of_lone (h : e.PlaysIn tree) (hactive : e.isActive = true)
    (hlone : TakesLoneChoice e) (r : Rehearsal) :
    (follow (turn lib tree e) r).1 = .ok (e.select 0).value.2 ∧
      (follow (turn lib tree e) r).2.lines = r.lines := by
  obtain ⟨hlength, hflag⟩ := hlone
  obtain ⟨text, htexts⟩ := List.length_eq_one_iff.mp hlength
  have hvisible : 0 < e.shown.length := by
    rw [choiceTexts_eq, List.length_map] at hlength
    omega
  have hanswer : (e.select 0).value.1 = .ok () := by
    rw [Engine.answer_select h.coherent, if_pos hactive, if_pos hvisible]
  rw [turn, htexts]
  simp [hflag, say, follow, hanswer, Except.map]

/-- Nothing is asked while a closing is waited for, and the engine is idle after it. -/
theorem quietly_waitOut (h : e.PlaysIn tree) (hpending : e.pendingAutoEnd = true) :
    (waitOut lib e).Quietly fun e' ↦ e'.PlaysIn tree ∧ e'.isActive = false :=
  .wait (quietly_shown (h.update_timeToEnd hpending))

/-- Any other turn ends the dialogue or uses up a line. -/
theorem follow_turn_of_not_lone (h : e.PlaysIn tree) (hlone : ¬TakesLoneChoice e) (r : Rehearsal) :
    ∃ e', (follow (turn lib tree e) r).1 = .ok e' ∧ e'.PlaysIn tree ∧
      (e'.isActive = false ∨ (follow (turn lib tree e) r).2.lines.length < r.lines.length) := by
  rw [turn]
  split
  · split
    · rename_i hpending
      obtain ⟨⟨hplays, hidle⟩, -⟩ := follow_of_quietly (quietly_waitOut h hpending) r
      rw [follow_map]
      dsimp only
      exact ⟨_, rfl, hplays, .inl hidle⟩
    · obtain ⟨hplays, hgone⟩ := follow_answered h pausePrompt (quietly_continueWith h) r
      rw [follow_map]
      dsimp only
      exact ⟨_, rfl, hplays, hgone⟩
  · rename_i text texts htexts
    split
    · rename_i hflag
      rw [Bool.and_eq_true, List.isEmpty_iff] at hflag
      refine absurd ⟨?_, hflag.2⟩ hlone
      rw [htexts, hflag.1, List.length_singleton]
    · obtain ⟨hplays, hgone⟩ := follow_answered h choicePrompt (quietly_chooseWith h)
        (r.print (choiceLines 1 (text :: texts)))
      rw [follow_bind, follow_map]
      dsimp only
      exact ⟨_, rfl, hplays, hgone⟩

end Play

end Storyline
