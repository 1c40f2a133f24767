import Mathlib.Data.List.TakeWhile
import Storyline.Proofs.Play.Ending
import Storyline.Proofs.Session.Choosing
import Storyline.Proofs.Text.Digits

/-!
# Answers to a list of choices

Below a list of choices the player types a line. Three counts have to agree on it: on screen the
visible choices are numbered from one, the engine counts them from zero, and the tree has hidden
ones in between. That a line is a request is found out first, but no number is one
(`Play.Request.ofLine?_of_spells`), so the number of a choice always gets to the engine
(`Play.chooseWith_of_typed`), in particular as it stands on screen (`Play.typed_decimal`). All other
lines leave the engine as it is, except those that ask to quit or to load
(`Play.chooseWith_of_not_typed`). `Play.Game.typed_at_prompt` sets this beside what is printed, in
every state that a game reaches, whatever libraries it has.
-/

namespace Storyline

open Text Interaction Play.Rehearsal

/-! ### Numbers are no requests -/

/-- A text without blanks is a single word. -/
theorem Text.splitAtBlank_of_forall {s : String} (h : ∀ c ∈ s.toList, isBlank c = false) :
    splitAtBlank s = (s, "") := by
  have hword : s.toList.takeWhile (!isBlank ·) = s.toList :=
    List.takeWhile_eq_self_iff.mpr fun c hc ↦ by rw [h c hc]; rfl
  rw [splitAtBlank, hword, String.ofList_toList, List.drop_of_length_le (Nat.le_succ _)]

/-- A text in lower case is kept by the lowering. -/
theorem Text.lower_of_forall {s : String} (h : ∀ c ∈ s.toList, IsLower c) : lower s = s := by
  rw [lower, lowerChars, lowerFrom_of_isLower h, String.ofList_toList]

/-- The characters of numbers: digits and signs. -/
def Numeral.isNumeric (c : Char) : Bool := c.isDigit || c == '+' || c == '-'

namespace Numeral

/-- The characters that spell an integer are those of a number. -/
theorem Spells.isNumeric {cs : List Char} {i : Int} (h : Spells cs i) :
    ∀ c ∈ cs, isNumeric c = true := by
  have hdigits {ds : List Char} (hds : ds.all Char.isDigit = true) :
      ∀ c ∈ ds, Numeral.isNumeric c = true := fun c hc ↦ by
    rw [Numeral.isNumeric, List.all_eq_true.mp hds c hc]
    rfl
  cases h with
  | bare hne hds => exact hdigits hds
  | plus hne hds => exact List.forall_mem_cons.mpr ⟨rfl, hdigits hds⟩
  | minus hne hds => exact List.forall_mem_cons.mpr ⟨rfl, hdigits hds⟩

/-- None of them is blank. -/
theorem isBlank_of_isNumeric {c : Char} (h : isNumeric c = true) : isBlank c = false := by
  rw [isNumeric, Bool.or_eq_true, Bool.or_eq_true, beq_iff_eq, beq_iff_eq] at h
  rcases h with (hdigit | rfl) | rfl
  · exact isBlank_of_isDigit hdigit
  · rfl
  · rfl

/-- All of them stand before the letters. -/
theorem isLower_of_isNumeric {c : Char} (h : isNumeric c = true) : IsLower c := by
  rw [isNumeric, Bool.or_eq_true, Bool.or_eq_true, beq_iff_eq, beq_iff_eq] at h
  refine isLower_of_toNat_lt ?_
  rcases h with (hdigit | rfl) | rfl
  · obtain ⟨-, hlast⟩ : 48 ≤ c.toNat ∧ c.toNat ≤ 57 := Char.isDigit_iff_toNat.mp hdigit
    omega
  · decide
  · decide

end Numeral

namespace Play

/-- A number is no request. -/
theorem Request.ofLine?_of_spells {line : String} {i : Int}
    (h : Numeral.Spells line.toList i) : Request.ofLine? line = none := by
  have hsplit : splitAtBlank line = (line, "") :=
    splitAtBlank_of_forall fun c hc ↦ Numeral.isBlank_of_isNumeric (h.isNumeric c hc)
  have hlower : lower line = line :=
    lower_of_forall fun c hc ↦ Numeral.isLower_of_isNumeric (h.isNumeric c hc)
  have hne (word : String) (hword : word.toList.all Numeral.isNumeric = false) : line ≠ word := by
    rintro rfl
    rw [List.all_eq_true.mpr h.isNumeric] at hword
    cases hword
  rw [ofLine?, hsplit]
  simp [hlower, hne "quit" rfl, hne "q" rfl, hne "save" rfl, hne "load" rfl]

/-! ### What is on screen -/

/-- A list of choices on screen: one a line, numbered from one. -/
def numbered (choices : List Choice) : String :=
  String.join (choices.mapIdx fun i c ↦
    "  " ++ Numeral.decimal (i + 1) ++ ". " ++ c.text ++ "\n")

/-- The lines of the choices are numbered from the first one on. -/
theorem choiceLines_eq (n : Nat) (choices : List Choice) :
    choiceLines n (choices.map (·.text)) = String.join (choices.mapIdx fun i c ↦
      "  " ++ Numeral.decimal (n + i) ++ ". " ++ c.text ++ "\n") := by
  induction choices generalizing n with
  | nil => rfl
  | cons c choices ih =>
    rw [List.map_cons, choiceLines, ih, List.mapIdx_cons, String.join_cons]
    simp only [Nat.add_zero, Nat.add_assoc, Nat.add_comm 1]

/-- What is printed below a node are its visible choices. -/
theorem choiceLines_choiceTexts {e : Engine} {node : Node}
    (h : e.shown = node.shown e.world.store) :
    choiceLines 1 (choiceTexts e) = numbered (node.choicesIn e.world.store) := by
  have htexts : choiceTexts e = (node.choicesIn e.world.store).map (·.text) := by
    rw [choiceTexts_eq, h, ← node.map_shown, List.map_map]
    rfl
  rw [htexts, choiceLines_eq, numbered]
  simp only [Nat.add_comm 1]

/-- Choices are on screen only while the dialogue is running. -/
theorem isActive_of_choiceTexts {e : Engine} (h : choiceTexts e ≠ []) : e.isActive = true := by
  rw [Engine.isActive]
  rcases hactive : e.active with - | a
  · refine absurd ?_ h
    rw [choiceTexts, Engine.visibleChoices, Engine.currentNode?, hactive]
    rfl
  · rfl

/-! ### What a line does -/

/-- A line is a number, once it is trimmed, and the number fits in 64 bits. -/
def Typed (line : String) (n : Nat) : Prop :=
  Numeral.Spells (trim line).toList n ∧ n < 18446744073709551616

/-- A positive number is read off the lines that are it, and off no others. -/
theorem readIndex?_eq_succ_iff {line : String} {i : Nat} :
    Numeral.readIndex? (trim line).toList = some (i + 1) ↔ Typed line (i + 1) := by
  rw [Numeral.readIndex?_eq_some_iff, Typed]
  constructor
  · rintro ⟨hspells, -, hlt⟩
    exact ⟨hspells, hlt⟩
  · rintro ⟨hspells, hlt⟩
    refine ⟨hspells, fun hminus ↦ ?_, hlt⟩
    have hnonpos := hspells.nonpos_of_minus hminus
    omega

/-- What is printed in front of a choice is its number when it is typed. -/
theorem typed_decimal {n : Nat} (h : n < 18446744073709551616) : Typed (Numeral.decimal n) n := by
  have hplain : Numeral.plain n = Numeral.decimal n := by simp [Numeral.plain]
  have htrim : (trim (Numeral.decimal n)).toList = (Numeral.decimal n).toList := by
    rw [toList_trim, Numeral.decimal, String.toList_ofList,
      trimChars_of_trimmed (Command.trimmed_toDigits n)]
  rw [Typed, htrim, ← hplain]
  exact ⟨Numeral.spells_plain n, h⟩

variable {lib : Libraries} {e : Engine} {tree : IndexedTree} {line : String} {i : Nat}

/-- The number of a choice takes it. -/
theorem chooseWith_of_typed (h : Typed line (i + 1)) :
    chooseWith lib tree e line = shown lib (e.select i) >>= showAnswer := by
  delta chooseWith
  dsimp only
  rw [Request.ofLine?_of_spells h.1, readIndex?_eq_succ_iff.mpr h]

/-- Nothing is asked for a refused call, and the engine stays. -/
theorem quietly_call_of_refused {call : Told Notice (Except DialogueError Unit × Engine)}
    {err : DialogueError} (h : Engine.Refused e call err) :
    (shown lib call >>= showAnswer).Quietly (· = e) := by
  refine Quietly.bind (quietly_shown (P := (· = (.error err, e))) h.value) ?_
  rintro _ rfl
  exact quietly_sayLine_bind _ (quietly_pure rfl)

/-- Every other line that is no request to quit or to load leaves the engine as it is. -/
theorem chooseWith_of_not_typed
    (hnot : ∀ i, Typed line (i + 1) → ∃ err, Engine.Refused e (e.select i) err)
    (hquit : Request.ofLine? (trim line) ≠ some .quit)
    (hload : ∀ slot, Request.ofLine? (trim line) ≠ some (.load slot)) :
    (chooseWith lib tree e line).Quietly (· = e) := by
  delta chooseWith
  dsimp only
  split
  · rename_i request hrequest
    cases request with
    | quit => exact absurd hrequest hquit
    | save slot => exact (quietly_saveGame e slot).bind fun _ _ ↦ quietly_pure rfl
    | load slot => exact absurd hrequest (hload slot)
  · split
    · rename_i hread
      obtain ⟨err, hrefused⟩ := hnot _ (readIndex?_eq_succ_iff.mp hread)
      exact quietly_call_of_refused hrefused
    · exact quietly_sayLine_bind _ (quietly_pure rfl)

/-! ### A game that asks -/

namespace Game

variable {g : Game}

/-- Where there are choices, and a lone one is not taken without asking, a turn prints them and asks
for a line. -/
theorem next_of_choices (h : choiceTexts g.engine ≠ []) (hlone : ¬TakesLoneChoice g.engine) :
    ∃ use, g.next lib = .print (choiceLines 1 (choiceTexts g.engine)) (.ask choicePrompt use) ∧
      ∀ line, use (some line) =
        chooseWith lib g.tree g.engine line >>= fun engine ↦ pure (.ok { g with engine }) := by
  obtain ⟨text, texts, htexts⟩ := List.exists_cons_of_ne_nil h
  have hasks : (texts.isEmpty &&
      g.engine.currentTree?.any (·.tree.autoAdvanceSingleChoice)) = false := by
    refine eq_false_of_ne_true fun hboth ↦ ?_
    rw [Bool.and_eq_true, List.isEmpty_iff] at hboth
    refine hlone ⟨?_, hboth.2⟩
    rw [htexts, hboth.1, List.length_singleton]
  rw [next, turn, htexts]
  dsimp only
  rw [hasks, if_neg Bool.false_ne_true]
  refine ⟨_, rfl, fun line ↦ ?_⟩
  exact andThen_andThen _ _ _

/-- In every state of a game that was opened in which choices are printed and a line is asked for, a
line that is the number of a printed choice takes this choice, and is not refused. Any other line
that does not ask to quit or to load leaves the game as it is, whatever is printed in answer: the
game goes on, and the same choices are printed again. -/
theorem typed_at_prompt {tree : IndexedTree} {config : Config} {r s around : Rehearsal}
    {opened g : Game} {n : Nat} (hopen : follow (openTree lib tree config) r = (.ok opened, s))
    (hturns : opened.afterTurns lib n s = some (g, around))
    (hchoices : choiceTexts g.engine ≠ []) (hlone : ¬TakesLoneChoice g.engine) :
    ∃ node use,
      let visible := node.choicesIn g.engine.world.store
      g.engine.activeNode = .ok (g.tree, node) ∧ g.isOver = false ∧
      g.next lib = .print (numbered visible) (.ask choicePrompt use) ∧
      (∀ line i choice, Typed line (i + 1) → visible[i]? = some choice →
        let after := g.engine.world.chosen g.tree node choice i
        ∃ e, (g.engine.select i).value = (.ok (), e) ∧
          e.active = after.active ∧ e.world = after.world ∧
          use (some line) =
            sayNotices lib after.notices >>= fun _ ↦ pure (.ok { g with engine := e })) ∧
      ∀ line, (∀ i, Typed line (i + 1) → visible.length ≤ i) →
        Request.ofLine? (trim line) ≠ some .quit →
        (∀ slot, Request.ofLine? (trim line) ≠ some (.load slot)) →
        (use (some line)).Quietly (· = .ok g) := by
  have hsound : g.Sound := ((sound_of_openTree (congrArg Prod.fst hopen)).1.afterTurns hturns).1
  have hactive : g.engine.isActive = true := isActive_of_choiceTexts hchoices
  obtain ⟨tree', node, hnode, hshown⟩ := hsound.coherent.activeNode_of_active hactive
  obtain rfl : tree' = g.tree := hsound.staysIn.eq_of_activeNode hnode
  obtain ⟨use, hnext, huse⟩ := next_of_choices hchoices hlone
  rw [choiceLines_choiceTexts hshown] at hnext
  refine ⟨node, use, hnode, by rw [isOver, hactive]; rfl, hnext,
    fun line i choice htyped hchoice ↦ ?_, fun line hnot hquit hload ↦ ?_⟩
  · obtain ⟨e, hvalue, hnotices, hafter, hworld⟩ := Engine.select_spec hnode hchoice
    refine ⟨e, hvalue, hafter, hworld, ?_⟩
    rw [huse, chooseWith_of_typed htyped, shown, hvalue, hnotices, bind_assoc, bind_assoc]
    rfl
  · rw [huse]
    have hstays : (chooseWith lib g.tree g.engine line).Quietly (· = g.engine) :=
      chooseWith_of_not_typed (fun i htyped ↦ Engine.refused_select hnode (hnot i htyped)) hquit
        hload
    refine hstays.bind ?_
    rintro _ rfl
    exact quietly_pure rfl

/-- At the quay the first choice is hidden, so the number of the second is one. -/
theorem typed_at_prompt_quay :
    ∃ g s use, follow (openTree .builtIn quayTree {}) { lines := [], folder := .ofFiles [] } =
        (.ok g, s) ∧
      ¬TakesLoneChoice g.engine ∧
      g.next .builtIn = .print "  1. Board\n" (.ask choicePrompt use) ∧
      (∃ e notices, use (some " +01\t") =
          sayNotices .builtIn notices >>= (fun _ ↦ pure (.ok { g with engine := e })) ∧
        e.active = some ⟨quayTree, "deck"⟩) ∧
      (use (some "save old")).Quietly (· = .ok g) ∧
      (use (some "18446744073709551617")).Quietly (· = .ok g) := by
  let r : Rehearsal := { lines := [], folder := .ofFiles [] }
  let g : Game := ⟨quayTree, ((newEngine {}).start quayTree).value.2⟩
  have hopen : (follow (openTree .builtIn quayTree {}) r).1 = .ok g := by
    have hstart : ((newEngine {}).start quayTree).value.1 = .ok () := rfl
    rw [follow_openTree, hstart]
  have hlone : ¬TakesLoneChoice g.engine := by decide
  obtain ⟨node, use, hnode, -, hnext, htaken, hkept⟩ :=
    typed_at_prompt (n := 0) (Prod.ext hopen rfl) rfl (by decide) hlone
  have hquay : g.engine.activeNode = .ok (quayTree, quayNode) := rfl
  cases hquay.symm.trans hnode
  have hvisible : quayNode.choicesIn g.engine.world.store = quayNode.choices.drop 1 := rfl
  rw [hvisible] at hnext htaken hkept
  have hone : Typed " +01\t" 1 := readIndex?_eq_succ_iff.mp rfl
  obtain ⟨e, -, hactive, -, htake⟩ := htaken _ 0 _ hone rfl
  have hnumber {line : String} (hread : Numeral.readIndex? (trim line).toList = none) (i : Nat)
      (htyped : Typed line (i + 1)) : 1 ≤ i := by
    rw [readIndex?_eq_succ_iff.mpr htyped] at hread
    cases hread
  have hsave : Request.ofLine? (trim "save old") = some (.save "old") := rfl
  have hlong : Request.ofLine? (trim "18446744073709551617") = none := rfl
  have hprinted : numbered (quayNode.choices.drop 1) = "  1. Board\n" := rfl
  rw [hprinted] at hnext
  refine ⟨g, _, use, Prod.ext hopen rfl, hlone, hnext, ⟨e, _, htake, ?_⟩, ?_, ?_⟩
  · rw [hactive]
    rfl
  · exact hkept _ (hnumber rfl) (by simp [hsave]) (by simp [hsave])
  · exact hkept _ (hnumber rfl) (by simp [hlong]) (by simp [hlong])

end Game

end Play

end Storyline
