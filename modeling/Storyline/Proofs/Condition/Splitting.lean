import Storyline.Condition.Basic
import Storyline.Proofs.Text.Splitting

/-!
# Where a condition is split

An expression is searched for one operator after the other, and it is split at the first place of
the first operator that it has. `Operator.Splits` says what this means for the two parts, without a
search: the operator does not stand any earlier, and those that are searched for before it do not
stand anywhere, be it across the place of the operator itself (`Operator.search_eq_some_iff`). Of
the operators that come later nothing is said; both parts may have them.

Blanks are part of no operator, so blanks beside the place where an expression is split do not move
it (`Operator.Splits.blanks`). Set off by blanks, an operator makes up no other one with a character
beside it: it splits a text unless one of the parts has an operator that is found instead
(`Operator.splits_of_spaced`, `Condition.parse_between`). Nor does it matter whether an expression
is trimmed before it is searched (`Condition.parse_eq`).
-/

namespace Storyline

open Text

namespace Operator

/-- How an operator is written, as characters. -/
abbrev chars (op : Operator) : List Char := op.token.toList

/-- The text of a comparison, with a blank on each side of the operator. -/
def between (op : Operator) (l r : String) : String := l ++ " " ++ op.token ++ " " ++ r

/-- The operators that an expression is searched for before it is searched for this one. -/
def earlier (op : Operator) : List Operator := all.takeWhile (· ≠ op)

variable {op o : Operator} {cs left right : List Char}

/-- The search goes through all operators. -/
theorem mem_all (op : Operator) : op ∈ all := by cases op <;> decide

theorem chars_ne_nil (op : Operator) : op.chars ≠ [] := by cases op <;> decide

/-- The characters that operators are made of. -/
def isMark (c : Char) : Bool := c == '<' || c == '>' || c == '=' || c == '!'

/-- Operators consist of marks. -/
theorem isMark_of_mem_chars (op : Operator) : ∀ c ∈ op.chars, isMark c = true := by
  have hall : op.chars.all isMark = true := by cases op <;> decide
  exact List.all_eq_true.mp hall

/-- They are neither blanks, nor letters, nor digits. -/
theorem of_isMark {c : Char} (h : isMark c = true) :
    isBlank c = false ∧ c.isAlpha = false ∧ c.isDigit = false := by
  simp only [isMark, Bool.or_eq_true, beq_iff_eq] at h
  rcases h with ((rfl | rfl) | rfl) | rfl <;> decide

/-- No mark is blank. -/
theorem isBlank_of_mem_chars (op : Operator) : ∀ c ∈ op.chars, isBlank c = false :=
  fun c hc ↦ (of_isMark (op.isMark_of_mem_chars c hc)).1

theorem trimmed_chars (op : Operator) : Trimmed op.chars :=
  trimmed_of_forall op.isBlank_of_mem_chars

/-- No operator is part of one that is searched for later, as a single character would be of the two
that begin with it. -/
theorem not_infix_chars (op : Operator) : ∀ o ∈ op.earlier, ¬o.chars <:+: op.chars := by
  cases op <;> decide

/-- The operator at which an expression is split, if these parts are around it. -/
structure Splits (op : Operator) (left right : List Char) : Prop where
  /-- The operator does not stand any earlier. -/
  first : ¬op.chars <:+: left ++ op.chars.dropLast
  /-- Those that are searched for before it do not stand anywhere. -/
  alone : ∀ o ∈ op.earlier, ¬o.chars <:+: left ++ op.chars ++ right

/-! ### The search -/

/-- Of several things that may have a result, the first that has one counts. -/
theorem findSome?_tagged_eq_some_iff {α β : Type} [DecidableEq α] {f : α → Option β} {as : List α}
    {a : α} {b : β} :
    as.findSome? (fun a ↦ (f a).map fun b ↦ (a, b)) = some (a, b) ↔
      a ∈ as ∧ f a = some b ∧ ∀ c ∈ as.takeWhile (· ≠ a), f c = none := by
  induction as with
  | nil => simp
  | cons c as ih =>
    rw [List.findSome?_cons, List.takeWhile_cons, List.mem_cons]
    rcases hc : f c with - | d
    · simp only [Option.map_none, ih]
      grind
    · simp only [Option.map_some, Option.some_inj, Prod.mk.injEq]
      grind

/-- The search finds nothing exactly in an expression without operators. -/
theorem search_eq_none_iff : search cs = none ↔ ∀ op : Operator, ¬op.chars <:+: cs := by
  simp only [search, List.findSome?_eq_none_iff, Option.map_eq_none_iff,
    splitAtFirst?_eq_none_iff_of_ne_nil (chars_ne_nil _)]
  exact ⟨fun h op ↦ h op op.mem_all, fun h op _ ↦ h op⟩

/-- An expression is split where an operator splits it. -/
theorem search_eq_some_iff :
    search cs = some (op, left, right) ↔ cs = left ++ op.chars ++ right ∧ op.Splits left right := by
  rw [search, findSome?_tagged_eq_some_iff, splitAtFirst?_eq_some_iff_of_ne_nil op.chars_ne_nil]
  simp only [splitAtFirst?_eq_none_iff_of_ne_nil (chars_ne_nil _)]
  constructor
  · rintro ⟨-, ⟨rfl, hfirst⟩, halone⟩
    exact ⟨rfl, hfirst, halone⟩
  · rintro ⟨rfl, hfirst, halone⟩
    exact ⟨op.mem_all, ⟨rfl, hfirst⟩, halone⟩

/-! ### Blanks beside an operator -/

/-- Less in front of an operator and less behind it does not move it. -/
theorem Splits.mono (h : op.Splits left right) {start rest : List Char} (hstart : start <:+ left)
    (hrest : rest <+: right) : op.Splits start rest where
  first hstands := by
    obtain ⟨front, rfl⟩ := hstart
    refine h.first (hstands.trans ?_)
    rw [List.append_assoc]
    exact (List.suffix_append _ _).isInfix
  alone o ho hstands := by
    obtain ⟨front, rfl⟩ := hstart
    obtain ⟨back, rfl⟩ := hrest
    refine h.alone o ho (hstands.trans ⟨front, back, ?_⟩)
    simp only [List.append_assoc]

/-- Blanks before an operator and behind it do not move it. -/
theorem Splits.blanks (h : op.Splits left right) {before after : List Char}
    (hbefore : before.all isBlank = true) (hafter : after.all isBlank = true) :
    op.Splits (left ++ before) (after ++ right) where
  first hstands := h.first (infix_of_infix_blanks op.isBlank_of_mem_chars hbefore hstands)
  alone o ho hstands := by
    refine h.alone o ho ?_
    have hchars := o.isBlank_of_mem_chars
    have hstands' : o.chars <:+: left ++ before ++ (op.chars ++ right) := by
      rw [← List.append_assoc]
      refine infix_of_infix_blanks hchars hafter ?_
      rwa [List.append_assoc _ after]
    rw [List.append_assoc]
    exact infix_of_infix_blanks hchars hbefore hstands'

/-- Set off by blanks, an operator splits an expression of which neither part has it or another
that is searched for before it; to the right of it, it may be found again. -/
theorem splits_of_spaced (hfirst : ¬op.chars <:+: left)
    (hleft : ∀ o ∈ op.earlier, ¬o.chars <:+: left)
    (hright : ∀ o ∈ op.earlier, ¬o.chars <:+: right) :
    op.Splits (left ++ [' ']) (' ' :: right) := by
  have hspace (o : Operator) : ' ' ∉ o.chars := fun h ↦ by
    have hblank := o.isBlank_of_mem_chars ' ' h
    cases hblank
  constructor
  · rw [List.append_assoc, List.singleton_append, infix_append_cons_iff (hspace op), not_or]
    exact ⟨hfirst, not_infix_dropLast op.chars_ne_nil⟩
  · intro o ho
    rw [List.append_assoc, List.append_assoc, List.singleton_append,
      infix_append_cons_iff (hspace o), infix_append_cons_iff (hspace o), not_or, not_or]
    exact ⟨hleft o ho, op.not_infix_chars o ho, hright o ho⟩

end Operator

namespace Condition

/-- An expression is read as it is split, the parts being trimmed, or else as a name. -/
theorem parse_eq (e : String) :
    parse e =
      match Operator.search e.toList with
      | some (op, left, right) => comparison op (trimChars left) (trimChars right)
      | none => if isBlankText e then .ok .always else .ok (.flag (trim e)) := by
  rw [parse]
  rcases hsearch : Operator.search e.toList with - | ⟨op, left, right⟩
  · have htrimmed : Operator.search (trimChars e.toList) = none :=
      Operator.search_eq_none_iff.mpr fun op hop ↦
        Operator.search_eq_none_iff.mp hsearch op (hop.trans (isInfix_trimChars _))
    by_cases hblank : isBlankText e = true
    · simp [hblank, trimChars_eq_nil_iff.mpr hblank]
    · have hne : trimChars e.toList ≠ [] := fun h ↦ hblank (trimChars_eq_nil_iff.mp h)
      simp [hblank, hne, htrimmed, trim]
  · obtain ⟨he, hsplits⟩ := Operator.search_eq_some_iff.mp hsearch
    have htrim : trimChars e.toList = trimStart left ++ op.chars ++ trimEnd right :=
      he ▸ trimChars_append_append op.trimmed_chars op.chars_ne_nil
    have htrimmed : Operator.search (trimChars e.toList) =
        some (op, trimStart left, trimEnd right) :=
      Operator.search_eq_some_iff.mpr
        ⟨htrim, hsplits.mono (List.dropWhile_suffix _) (isPrefix_trimEnd right)⟩
    have hne : trimChars e.toList ≠ [] := by
      have hstart := List.append_ne_nil_of_right_ne_nil (trimStart left) op.chars_ne_nil
      rw [htrim]
      exact List.append_ne_nil_of_left_ne_nil hstart _
    simp only [htrimmed, trimChars_trimStart, trimChars_trimEnd]
    exact if_neg (by simpa using hne)

/-- Where an operator splits an expression, the trimmed parts are compared. -/
theorem parse_of_splits {e : String} {op : Operator} {left right : List Char}
    (he : e.toList = left ++ op.chars ++ right) (h : op.Splits left right) :
    parse e = comparison op (trimChars left) (trimChars right) := by
  rw [parse_eq, Operator.search_eq_some_iff.mpr ⟨he, h⟩]

/-- Where an operator is set off by blanks, the trimmed texts around it are compared, if none of
the operators in them is found instead. -/
theorem parse_between {op : Operator} {l r : String} (hfirst : ¬op.chars <:+: l.toList)
    (hleft : ∀ o ∈ op.earlier, ¬o.chars <:+: l.toList)
    (hright : ∀ o ∈ op.earlier, ¬o.chars <:+: r.toList) :
    parse (op.between l r) = comparison op (trimChars l.toList) (trimChars r.toList) := by
  have hsplits := Operator.splits_of_spaced hfirst hleft hright
  have htext : (op.between l r).toList = l.toList ++ [' '] ++ op.chars ++ ' ' :: r.toList := by
    simp [Operator.between]
  have hbefore : trimChars (l.toList ++ [' ']) = trimChars l.toList :=
    trimChars_append_blanks (by decide) l.toList
  have hafter : trimChars ([' '] ++ r.toList) = trimChars r.toList :=
    trimChars_blanks_append (by decide) r.toList
  rw [List.singleton_append] at hafter
  rw [parse_of_splits htext hsplits, hbefore, hafter]

end Condition

end Storyline
