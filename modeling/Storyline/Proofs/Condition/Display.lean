import Storyline.Proofs.Condition.Comparison

/-!
# Conditions read back

A condition that was read is read back from its text (`Condition.parse_display_eq_ok`). What is
shown of a comparison is split at its operator: one that is searched for before it would have been
found in the expression that was read, and the name does not have the operator itself
(`Operator.Splits.free_left`). What is shown of the operand is what was read, or it is a truth value
or a number, in which there are none of the characters of operators (`Operator.Takes.display`).
-/

namespace Storyline

open Text

/-! ### Operands -/

namespace Operand

/-- A truth value and a number have neither blanks nor characters of operators. -/
theorem inert_display {rhs : Operand} (h : ∀ s, rhs ≠ .text s) :
    rhs.display.toList ≠ [] ∧
      ∀ c ∈ rhs.display.toList, isBlank c = false ∧ Operator.isMark c = false := by
  cases rhs with
  | text s => exact absurd rfl (h s)
  | bool b =>
    have hletters : (display (.bool b)).toList.all (fun c ↦ !isBlank c && !Operator.isMark c) =
        true := by cases b <;> decide
    refine ⟨by cases b <;> decide, fun c hc ↦ ?_⟩
    simpa using List.all_eq_true.mp hletters c hc
  | int n =>
    rw [display, Numeral.toList_plain]
    constructor
    · exact List.append_ne_nil_of_right_ne_nil _ Nat.toDigits_ne_nil
    · intro c hc
      rcases List.mem_append.mp hc with hc | hc
      · split at hc
        · rw [List.mem_singleton.mp hc]
          decide
        · cases hc
      · have hdigit := isDigit_of_mem_toDigits hc
        refine ⟨isBlank_of_isDigit hdigit, Bool.eq_false_iff.mpr fun hmark ↦ ?_⟩
        exact isDigit_ne hdigit (Operator.of_isMark hmark).2.2 rfl

end Operand

namespace Operator

variable {op : Operator} {right : List Char} {rhs : Operand}

/-- An operand that is a text is the text that was read. -/
theorem eq_of_operand?_eq_text {s : String} (h : op.operand? right = some (.text s)) :
    s = String.ofList right := by
  rw [operand?] at h
  split at h
  · simp at h
  · unfold Operand.ofText at h
    grind

/-- An operand that was read is read back from its text. -/
theorem operand?_display (h : op.operand? right = some rhs) :
    op.operand? rhs.display.toList = some rhs := by
  cases rhs with
  | int n =>
    exact operand?_of_readInt32? (Numeral.readInt32?_eq_some_iff.mpr (Numeral.spells_plain _)) op
  | bool b =>
    have hequality : op.isOrdering = false := by
      rw [Bool.eq_false_iff]
      intro hordering
      simp [operand?, hordering] at h
    rw [operand?, hequality]
    cases b <;> decide +kernel
  | text s =>
    rwa [Operand.display, eq_of_operand?_eq_text h, String.toList_ofList,
      ← eq_of_operand?_eq_text h]

/-- What stands behind an operator where a comparison can be read. -/
structure Takes (op : Operator) (right : List Char) : Prop where
  trimmed : Trimmed right
  ne_nil : right ≠ []
  alone : ∀ o ∈ op.earlier, ¬o.chars <:+: right

/-- There the text of the operand can stand, too. -/
theorem Takes.display (h : op.Takes right) (hrhs : op.operand? right = some rhs) :
    op.Takes rhs.display.toList := by
  by_cases htext : ∃ s, rhs = .text s
  · obtain ⟨s, rfl⟩ := htext
    rwa [Operand.display, eq_of_operand?_eq_text hrhs, String.toList_ofList]
  · obtain ⟨hne, hinert⟩ := Operand.inert_display (not_exists.mp htext)
    refine ⟨trimmed_of_forall fun c hc ↦ (hinert c hc).1, hne, fun o _ hstands ↦ ?_⟩
    obtain ⟨c, cs, hchars⟩ := List.exists_cons_of_ne_nil o.chars_ne_nil
    have hc : c ∈ o.chars := hchars ▸ List.mem_cons_self
    have hmark := (hinert c (hstands.subset hc)).2
    rw [o.isMark_of_mem_chars c hc] at hmark
    cases hmark

variable {left : List Char}

/-- A name before an operator that splits an expression has neither this operator nor one that is
searched for before it. -/
theorem Splits.free_left (h : op.Splits left right) :
    ¬op.chars <:+: trimChars left ∧ ∀ o ∈ op.earlier, ¬o.chars <:+: trimChars left := by
  have hleft {rest : List Char} : trimChars left <:+: left ++ rest :=
    (isInfix_trimChars left).trans (List.prefix_append left rest).isInfix
  refine ⟨fun hstands ↦ h.first (hstands.trans hleft), fun o ho hstands ↦ h.alone o ho ?_⟩
  rw [List.append_assoc]
  exact hstands.trans hleft

/-- What is left on the right of the operator that splits an expression is a side that the operator
takes. -/
theorem Splits.takes (h : op.Splits left right) (hne : trimChars right ≠ []) :
    op.Takes (trimChars right) where
  trimmed := trimmed_trimChars right
  ne_nil := hne
  alone o ho hstands := by
    have hright : trimChars right <:+: left ++ op.chars ++ right :=
      (isInfix_trimChars right).trans (List.suffix_append _ right).isInfix
    exact h.alone o ho (hstands.trans hright)

end Operator

/-! ### Conditions -/

namespace Condition

/-- A name is read back from the trimmed text that it is. -/
theorem parse_trim_of_search_eq_none {e : String} (h : Operator.search e.toList = none)
    (hblank : isBlankText e = false) : parse (trim e) = .ok (.flag (trim e)) := by
  have hsearch : Operator.search (trim e).toList = none := by
    rw [toList_trim, Operator.search_eq_none_iff]
    exact fun op hop ↦ Operator.search_eq_none_iff.mp h op (hop.trans (isInfix_trimChars _))
  rw [parse_eq, hsearch, isBlankText_trim, hblank, trim_trim]
  rfl

/-- A comparison that was read where an operator splits an expression is read back from its
text. -/
theorem parse_display_of_splits {op : Operator} {left right : List Char} {c : Condition}
    (hsplits : op.Splits left right)
    (h : comparison op (trimChars left) (trimChars right) = .ok c) : parse c.display = .ok c := by
  obtain ⟨hleft, hright, rhs, hrhs, rfl⟩ := comparison_eq_ok_iff.mp h
  obtain ⟨hfirst, hname⟩ := hsplits.free_left
  obtain ⟨htrimmed, hne, hshown⟩ := (hsplits.takes hright).display hrhs
  let name := String.ofList (trimChars left)
  have hlist : name.toList = trimChars left := String.toList_ofList
  have hdisplay : (compare name op rhs).display = op.between name rhs.display := rfl
  rw [← hlist] at hfirst hname
  rw [hdisplay, parse_between hfirst hname hshown, hlist, trimChars_of_trimmed htrimmed,
    trimChars_of_trimmed (trimmed_trimChars left)]
  exact comparison_eq_ok_iff.mpr ⟨hleft, hne, rhs, op.operand?_display hrhs, rfl⟩

/-- A condition that was read is read back from its text, and so its text is true in the same
stores as the expression that was read. -/
theorem parse_display_eq_ok {e : String} {c : Condition} (h : parse e = .ok c) :
    parse c.display = .ok c ∧
      ∀ {α : Type} (s : Store), (evaluate s c.display : Told α Bool) = evaluate s e := by
  suffices hdisplay : parse c.display = .ok c by
    refine ⟨hdisplay, fun s ↦ ?_⟩
    rw [evaluate, evaluate, hdisplay, h]
  rw [parse_eq] at h
  rcases hsearch : Operator.search e.toList with - | ⟨op, left, right⟩
  · rw [hsearch] at h
    dsimp only at h
    split at h
    · cases h
      rfl
    · rename_i hblank
      cases h
      exact parse_trim_of_search_eq_none hsearch (Bool.eq_false_iff.mpr hblank)
  · rw [hsearch] at h
    exact parse_display_of_splits (Operator.search_eq_some_iff.mp hsearch).2 h

/-- The first operator in the order of the search splits an expression with halves of operators in
front of another whole one, and the blanks that are shown make up no operator with them. -/
theorem parse_display_brim :
    parse "brim=== water != ice" = .ok (.compare "brim" .equal (.text "= water != ice")) ∧
      parse "brim == = water != ice" =
        .ok (.compare "brim" .equal (.text "= water != ice")) := by
  have h : parse "brim=== water != ice" =
      .ok (.compare "brim" .equal (.text "= water != ice")) := by decide +kernel
  exact ⟨h, (parse_display_eq_ok h).1⟩

end Condition

end Storyline
