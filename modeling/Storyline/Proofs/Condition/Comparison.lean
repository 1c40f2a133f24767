import Storyline.Condition.Evaluation
import Storyline.Proofs.Condition.Splitting
import Storyline.Proofs.Text.Casing
import Storyline.Proofs.Text.Digits

/-!
# What comparisons mean

A comparison is read if it has two sides and, where it compares by order, a number on the right
(`Condition.comparison_eq_ok_iff`). A number is the same operand for all six operators, and they
compare with it as they compare two integers (`Condition.holds_compare_int`). Anything else is an
operand for equality only, and its spelling decides which kind of variable it is compared with.

So the six operators can be told apart and put together on the level of texts, whatever the two
sides are, as long as there is no operator in them (`Operator.relates_spec`).
-/

namespace Storyline

open Text

/-! ### Operands -/

namespace Operand

variable {right : List Char}

/-- A number is never read as a truth value or as a text. -/
theorem ofText_of_readInt32? {n : Int32} (h : Numeral.readInt32? right = some n) :
    ofText right = .int n := by
  -- the words for truth values are no numbers, whatever the case of their letters
  have hword (word : String) (hnone : Numeral.readInt32? word.toList = none) :
      sameText (String.ofList right) word = false := by
    rw [Bool.eq_false_iff]
    intro hsame
    have hfold : right.map Char.toLower = word.toList.map Char.toLower := by
      simpa [asciiFold] using hsame
    rw [← Numeral.readInt32?_map_toLower, hfold, Numeral.readInt32?_map_toLower, hnone] at h
    cases h
  have htrue := hword "true" (by decide +kernel)
  have hfalse := hword "false" (by decide +kernel)
  simp [ofText, htrue, hfalse, h]

end Operand

namespace Operator

/-- The operand that a text stands for behind an operator. -/
def operand? (op : Operator) (right : List Char) : Option Operand :=
  if op.isOrdering then (Numeral.readInt32? right).map .int else some (.ofText right)

/-- What is read as a number is that operand of every operator. -/
theorem operand?_of_readInt32? {right : List Char} {n : Int32}
    (h : Numeral.readInt32? right = some n) (op : Operator) :
    op.operand? right = some (.int n) := by
  rw [operand?, h, Operand.ofText_of_readInt32? h]
  split <;> rfl

/-- Behind an operator for equality there is always an operand. -/
theorem operand?_of_not_isOrdering {op : Operator} (h : op.isOrdering = false)
    (right : List Char) : op.operand? right = some (.ofText right) := by
  rw [operand?, h]
  rfl

end Operator

namespace Condition

variable {op : Operator} {left right : List Char}

/-- Two sides make a comparison if neither is empty and the right one is an operand. -/
theorem comparison_eq_ok_iff {c : Condition} :
    comparison op left right = .ok c ↔
      left ≠ [] ∧ right ≠ [] ∧
        ∃ rhs, op.operand? right = some rhs ∧ c = .compare (String.ofList left) op rhs := by
  unfold comparison Operator.operand?
  grind

/-- With something on both sides, a comparison is read if it has an operand. -/
theorem toOption_comparison (hleft : left ≠ []) (hright : right ≠ []) :
    (comparison op left right).toOption =
      (op.operand? right).map fun rhs ↦ .compare (String.ofList left) op rhs := by
  rcases hrhs : op.operand? right with - | rhs
  · rcases hcomparison : comparison op left right with error | c
    · rfl
    · obtain ⟨-, -, rhs, hsome, -⟩ := comparison_eq_ok_iff.mp hcomparison
      rw [hrhs] at hsome
      cases hsome
  · rw [comparison_eq_ok_iff.mpr ⟨hleft, hright, rhs, hrhs, rfl⟩]
    rfl

/-- An expression that is no condition counts as false. -/
theorem value_evaluate {α : Type} (s : Store) (e : String) :
    (evaluate s e : Told α Bool).value = ((parse e).toOption.map (holds s)).getD false := by
  rw [evaluate]
  rcases parse e with error | c <;> rfl

/-- An operator compares a variable with a number as it compares two integers. -/
theorem holds_compare_int (s : Store) (key : String) (op : Operator) (n : Int32) :
    (compare key op (.int n)).holds s = op.compare (s.getInt key) n := by
  cases op <;> rfl

/-- A comparison depends on the key that its name stands for, not on how it is spelled. -/
theorem holds_compare_congr {k k' : String} (h : normalizeKey? k = normalizeKey? k') (s : Store)
    (op : Operator) (rhs : Operand) : (compare k op rhs).holds s = (compare k' op rhs).holds s := by
  have hint : s.getInt k = s.getInt k' := by rw [Store.getInt, h, Store.getInt]
  have hequals : equals s k rhs = equals s k' rhs := by
    cases rhs with
    | int n => rw [equals, hint, equals]
    | bool b => rw [equals, Store.getBool, h, equals, Store.getBool]
    | text t => rw [equals, Store.getString, h, equals, Store.getString]
  cases op with
  | equal => exact hequals
  | notEqual => exact congrArg not hequals
  | _ =>
    cases rhs with
    | int n => rw [holds_compare_int, hint, holds_compare_int]
    | _ => rfl

end Condition

theorem normalizeKey?_trim (key : String) : normalizeKey? (trim key) = normalizeKey? key := by
  rw [normalizeKey?, normalizeKey?, isBlankText_trim, foldName, foldName, trim_trim]

/-! ### Comparisons as texts -/

namespace Operator

/-- Whether an operator relates two sides in a store: the value of its comparison. -/
def relates (op : Operator) (s : Store) (l r : String) : Bool :=
  (Condition.evaluate s (op.between l r) : Told Empty Bool).value

/-- A text that can be a side of any comparison. -/
structure Side (t : String) : Prop where
  /-- It is not blank. -/
  not_blank : isBlankText t = false
  /-- There is no operator in it; there may well be single characters of operators. -/
  free : ∀ op : Operator, ¬op.chars <:+: t.toList

variable {l r : String}

/-- A side of a comparison is not blank. -/
theorem Side.trimChars_ne_nil {t : String} (h : Side t) : trimChars t.toList ≠ [] := fun hnil ↦
  Bool.eq_false_iff.mp h.not_blank (trimChars_eq_nil_iff.mp hnil)

/-- Evaluating a comparison in text form is to compare with the operand on its right; it does not
hold where there is none. -/
theorem relates_eq (hl : Side l) (hr : Side r) (op : Operator) (s : Store) :
    op.relates s l r = ((op.operand? (trim r).toList).map fun rhs ↦
      (Condition.compare l op rhs).holds s).getD false := by
  have hname (rhs : Operand) : (Condition.compare (trim l) op rhs).holds s =
      (Condition.compare l op rhs).holds s :=
    Condition.holds_compare_congr (normalizeKey?_trim l) s op rhs
  rw [relates, Condition.value_evaluate,
    Condition.parse_between (hl.free op) (fun o _ ↦ hl.free o) (fun o _ ↦ hr.free o),
    Condition.toOption_comparison hl.trimChars_ne_nil hr.trimChars_ne_nil, Option.map_map,
    toList_trim]
  simp only [← hname]
  rfl

/-- With a number on the right, an operator compares the integer of the name on the left. -/
theorem relates_of_spells (hl : Side l) (hr : Side r) {n : Int32}
    (hn : Numeral.Spells (trim r).toList n.toInt) (op : Operator) (s : Store) :
    op.relates s l r = op.compare (s.getInt l) n := by
  rw [relates_eq hl hr, operand?_of_readInt32? (Numeral.readInt32?_eq_some_iff.mpr hn),
    Option.map_some, Option.getD_some, Condition.holds_compare_int]

/-- With anything else on the right, nothing is true of the order. -/
theorem relates_eq_false (hl : Side l) (hr : Side r)
    (hn : ∀ n : Int32, ¬Numeral.Spells (trim r).toList n.toInt) {op : Operator}
    (hop : op.isOrdering = true) (s : Store) : op.relates s l r = false := by
  rw [relates_eq hl hr, operand?, if_pos hop, Numeral.readInt32?_eq_none_iff.mpr hn]
  rfl

/-- With anything else on the right, equality is that of truth values or that of texts. -/
theorem equal_relates (hl : Side l) (hr : Side r)
    (hn : ∀ n : Int32, ¬Numeral.Spells (trim r).toList n.toInt) (s : Store) :
    equal.relates s l r =
      if sameText (trim r) "true" then s.getBool l
      else if sameText (trim r) "false" then !s.getBool l
      else sameText (s.getString l) (trim r) := by
  rw [relates_eq hl hr, operand?_of_not_isOrdering rfl, Option.map_some, Option.getD_some,
    Condition.holds, Operand.ofText, String.ofList_toList, Numeral.readInt32?_eq_none_iff.mpr hn]
  split
  · simp [Condition.equals]
  · split
    · simp [Condition.equals]
    · rfl

/-- Being unequal is the opposite of being equal. -/
theorem notEqual_relates (hl : Side l) (hr : Side r) (s : Store) :
    notEqual.relates s l r = !equal.relates s l r := by
  rw [relates_eq hl hr, relates_eq hl hr, operand?_of_not_isOrdering rfl,
    operand?_of_not_isOrdering rfl, Option.map_some, Option.map_some, Option.getD_some,
    Option.getD_some, Condition.holds, Condition.holds]

/-- The six operators mean what they say: of a variable and a number, just one of less, equal and
greater is true, and the others are negations; of a variable and anything else, nothing is true of
the order, and equality is that of truth values for the two words and of texts otherwise. -/
theorem relates_spec (hl : Side l) (hr : Side r) (s : Store) :
    notEqual.relates s l r = (!equal.relates s l r) ∧
      (∀ n : Int32, Numeral.Spells (trim r).toList n.toInt →
        [less.relates s l r, equal.relates s l r, greater.relates s l r].count true = 1 ∧
        less.relates s l r = decide ((s.getInt l).toInt < n.toInt) ∧
        equal.relates s l r = decide ((s.getInt l).toInt = n.toInt) ∧
        greater.relates s l r = decide (n.toInt < (s.getInt l).toInt) ∧
        greaterOrEqual.relates s l r = (!less.relates s l r) ∧
        lessOrEqual.relates s l r = (!greater.relates s l r)) ∧
      ((∀ n : Int32, ¬Numeral.Spells (trim r).toList n.toInt) →
        (∀ op : Operator, op.isOrdering = true → op.relates s l r = false) ∧
        equal.relates s l r =
          if sameText (trim r) "true" then s.getBool l
          else if sameText (trim r) "false" then !s.getBool l
          else sameText (s.getString l) (trim r)) := by
  refine ⟨notEqual_relates hl hr s, fun n hn ↦ ?_,
    fun hn ↦ ⟨fun op hop ↦ relates_eq_false hl hr hn hop s, equal_relates hl hr hn s⟩⟩
  simp only [relates_of_spells hl hr hn, compare, Int32.lt_iff_toInt_lt, Int32.le_iff_toInt_le,
    ← Int32.toInt_inj, beq_eq_decide]
  rcases Int.lt_trichotomy (s.getInt l).toInt n.toInt with h | h | h
  · grind
  · grind
  · grind

/-- A number behind a plus sign and a zero, and a text with half an operator at its end. -/
theorem relates_spec_sanity :
    let s := (Store.ofSeeds .standard : Told Empty Store).value
    equal.relates s "Sanity" "+0100" = decide ((s.getInt "Sanity").toInt = 100) ∧
      lessOrEqual.relates s "Sanity" "+0100" = (!greater.relates s "Sanity" "+0100") ∧
      less.relates s "Sanity" "intact!" = false := by
  intro s
  have hname : Side "Sanity" := ⟨by decide, fun op ↦ by cases op <;> decide⟩
  have hnumber : Side "+0100" := ⟨by decide, fun op ↦ by cases op <;> decide⟩
  have htext : Side "intact!" := ⟨by decide, fun op ↦ by cases op <;> decide⟩
  have hspells : Numeral.Spells (trim "+0100").toList (100 : Int32).toInt :=
    Numeral.readInt32?_eq_some_iff.mp (by decide +kernel)
  have hnone : ∀ n : Int32, ¬Numeral.Spells (trim "intact!").toList n.toInt :=
    Numeral.readInt32?_eq_none_iff.mp (by decide +kernel)
  obtain ⟨-, hordered, -⟩ := relates_spec hname hnumber s
  obtain ⟨-, -, hequal, -, -, hlessOrEqual⟩ := hordered 100 hspells
  obtain ⟨-, -, hunordered⟩ := relates_spec hname htext s
  exact ⟨hequal, hlessOrEqual, (hunordered hnone).1 less rfl⟩

end Operator

end Storyline
