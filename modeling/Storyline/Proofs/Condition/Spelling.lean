import Mathlib.Logic.Relation
import Storyline.Proofs.Condition.Comparison

/-!
# Spellings of one condition

An expression may be written with other blanks around it and around its operator, and with ASCII
letters in the other case (`Condition.Respells`). Blanks are gone before anything is read. Letters
are not, but reading goes along with making them small: the expression in small letters is split at
the same operator and read as the same condition in small letters
(`Condition.toOption_parse_smallLetters`).

So what all spellings have in common is the condition in small letters, if there is one
(`Condition.reading`). Each respelling keeps it, and it is all that the value depends on.
-/

namespace Storyline

open Text

variable {cs left right : List Char} {op : Operator}

/-! ### In small letters -/

/-- An operand in small letters. -/
def Operand.small : Operand → Operand
  | .text s => .text (smallLetters s)
  | rhs => rhs

/-- A condition in small letters. -/
def Condition.small : Condition → Condition
  | .always => .always
  | .flag name => .flag (smallLetters name)
  | .compare key op rhs => .compare (smallLetters key) op rhs.small

/-- An operand in small letters is the operand, in small letters. -/
theorem Operand.ofText_map_toLower (right : List Char) :
    ofText (right.map Char.toLower) = (ofText right).small := by
  have hsame (word : String) :
      sameText (smallLetters (String.ofList right)) word = sameText (String.ofList right) word := by
    rw [sameText, asciiFold_smallLetters, sameText]
  rw [ofText, ofText, ← smallLetters_ofList, hsame, hsame, Numeral.readInt32?_map_toLower]
  split
  · rfl
  · split
    · rfl
    · cases Numeral.readInt32? right <;> rfl

namespace Operator

/-- This goes for the operands of every operator. -/
theorem operand?_map_toLower (op : Operator) (right : List Char) :
    op.operand? (right.map Char.toLower) = (op.operand? right).map Operand.small := by
  rw [operand?, operand?, Numeral.readInt32?_map_toLower, Operand.ofText_map_toLower]
  split
  · cases Numeral.readInt32? right <;> rfl
  · rfl

/-- There is no letter in an operator. -/
theorem isAlpha_of_mem_chars (op : Operator) : ∀ c ∈ op.chars, c.isAlpha = false :=
  fun c hc ↦ (of_isMark (op.isMark_of_mem_chars c hc)).2.1

theorem map_toLower_chars (op : Operator) : op.chars.map Char.toLower = op.chars :=
  ((map_toLower_eq_iff op.isAlpha_of_mem_chars).mpr rfl).symm

/-- An expression is split at the same place in small letters. -/
theorem Splits.map_toLower (h : op.Splits left right) :
    op.Splits (left.map Char.toLower) (right.map Char.toLower) where
  first hstands := by
    refine h.first ((infix_map_toLower_iff op.isAlpha_of_mem_chars).mp ?_)
    rwa [List.map_append, List.map_dropLast, map_toLower_chars]
  alone o ho hstands := by
    refine h.alone o ho ((infix_map_toLower_iff o.isAlpha_of_mem_chars).mp ?_)
    rwa [List.map_append, List.map_append, map_toLower_chars]

/-- An expression in small letters is split where it was before. -/
theorem search_map_toLower (cs : List Char) :
    search (cs.map Char.toLower) =
      (search cs).map fun (op, left, right) ↦
        (op, left.map Char.toLower, right.map Char.toLower) := by
  rcases hsearch : search cs with - | ⟨op, left, right⟩
  · rw [Option.map_none, search_eq_none_iff]
    exact fun op hstands ↦ search_eq_none_iff.mp hsearch op
      ((infix_map_toLower_iff op.isAlpha_of_mem_chars).mp hstands)
  · obtain ⟨rfl, hsplits⟩ := search_eq_some_iff.mp hsearch
    rw [Option.map_some, search_eq_some_iff, List.map_append, List.map_append, map_toLower_chars]
    exact ⟨rfl, hsplits.map_toLower⟩

end Operator

namespace Condition

/-- A comparison in small letters is the comparison, in small letters. -/
theorem toOption_comparison_map_toLower (op : Operator) (left right : List Char) :
    (comparison op (left.map Char.toLower) (right.map Char.toLower)).toOption =
      (comparison op left right).toOption.map small := by
  by_cases hleft : left = []
  · rw [hleft]
    rfl
  · by_cases hright : right = []
    · obtain ⟨c, cs, rfl⟩ := List.exists_cons_of_ne_nil hleft
      rw [hright]
      rfl
    · rw [toOption_comparison (by simpa using hleft) (by simpa using hright),
        toOption_comparison hleft hright, Operator.operand?_map_toLower, Option.map_map,
        Option.map_map, ← smallLetters_ofList]
      rfl

/-- Reading goes along with making letters small. -/
theorem toOption_parse_smallLetters (e : String) :
    (parse (smallLetters e)).toOption = (parse e).toOption.map small := by
  rw [parse_eq, parse_eq, toList_smallLetters, Operator.search_map_toLower]
  rcases Operator.search e.toList with - | ⟨op, left, right⟩
  · dsimp only [Option.map_none]
    rw [isBlankText_smallLetters]
    split
    · rfl
    · have htrim : trim (smallLetters e) = smallLetters (trim e) := by
        rw [trim, toList_smallLetters, trimChars_map_toLower, ← smallLetters_ofList, trim]
      rw [htrim]
      rfl
  · dsimp only [Option.map_some]
    rw [trimChars_map_toLower, trimChars_map_toLower, toOption_comparison_map_toLower]

/-- A condition in small letters is true in the same stores. -/
theorem holds_small (s : Store) (c : Condition) : c.small.holds s = c.holds s := by
  cases c with
  | always => rfl
  | flag name =>
    rw [small, holds, Store.getBool, normalizeKey?_smallLetters]
    rfl
  | compare key op rhs =>
    rw [small, holds_compare_congr (normalizeKey?_smallLetters key)]
    cases rhs with
    | bool b => rfl
    | int n => rfl
    | text t =>
      have hsame : sameText (s.getString key) (smallLetters t) = sameText (s.getString key) t := by
        rw [sameText, asciiFold_smallLetters, sameText]
      cases op <;> simp only [Operand.small, holds, equals, hsame]

/-! ### Respellings -/

/-- A way to spell an expression anew. -/
inductive Respells : String → String → Prop where
  /-- With letters in the other case. -/
  | recased {e e' : String} (h : sameText e e' = true) : Respells e e'
  /-- With blanks around it. -/
  | padded {e e' : String} {front back : List Char} (hfront : front.all isBlank = true)
      (hback : back.all isBlank = true) (h : e'.toList = front ++ e.toList ++ back) :
      Respells e e'
  /-- Without blanks around it. -/
  | stripped {e e' : String} {front back : List Char} (hfront : front.all isBlank = true)
      (hback : back.all isBlank = true) (h : e.toList = front ++ e'.toList ++ back) :
      Respells e e'
  /-- With blanks around the operator at which it is split. -/
  | spaced {e e' : String} {op : Operator} {left right before after : List Char}
      (hbefore : before.all isBlank = true) (hafter : after.all isBlank = true)
      (h : Operator.search e.toList = some (op, left, right))
      (h' : e'.toList = left ++ before ++ op.chars ++ (after ++ right)) : Respells e e'

/-- What is read of an expression if it is a condition, up to the case of ASCII letters. -/
def reading (e : String) : Option Condition := (parse e).toOption.map small

/-- An expression is true if it can be read and what is read holds. -/
theorem value_evaluate_eq_reading {α : Type} (s : Store) (e : String) :
    (evaluate s e : Told α Bool).value = ((reading e).map (holds s)).getD false := by
  have hsmall : holds s ∘ small = holds s := funext (holds_small s)
  rw [value_evaluate, reading, Option.map_map, hsmall]

/-- Blanks around an expression do not change what is read. -/
theorem parse_eq_of_padded {e e' : String} {front back : List Char}
    (hfront : front.all isBlank = true) (hback : back.all isBlank = true)
    (h : e'.toList = front ++ e.toList ++ back) : parse e' = parse e := by
  have htrim : trimChars e'.toList = trimChars e.toList := by
    rw [h, trimChars_append_blanks hback, trimChars_blanks_append hfront]
  rw [parse, htrim, parse]

theorem parse_eq_of_spaced {e e' : String} {before after : List Char}
    (hbefore : before.all isBlank = true) (hafter : after.all isBlank = true)
    (h : Operator.search e.toList = some (op, left, right))
    (h' : e'.toList = left ++ before ++ op.chars ++ (after ++ right)) : parse e' = parse e := by
  obtain ⟨he, hsplits⟩ := Operator.search_eq_some_iff.mp h
  rw [parse_of_splits h' (hsplits.blanks hbefore hafter), trimChars_append_blanks hbefore,
    trimChars_blanks_append hafter, parse_of_splits he hsplits]

/-- No respelling changes what is read. -/
theorem Respells.reading_eq {e e' : String} (h : Respells e e') : reading e' = reading e := by
  cases h with
  | recased h =>
    rw [reading, reading, ← toOption_parse_smallLetters, ← toOption_parse_smallLetters,
      smallLetters_eq_iff.mpr h]
  | padded hfront hback h => rw [reading, parse_eq_of_padded hfront hback h, reading]
  | stripped hfront hback h => rw [reading, reading, parse_eq_of_padded hfront hback h]
  | spaced hbefore hafter h h' => rw [reading, parse_eq_of_spaced hbefore hafter h h', reading]

/-- However often an expression is spelled anew, it has the same value in every store, and if it was
no condition, it still is none. -/
theorem evaluate_respelled {e e' : String} (h : Relation.ReflTransGen Respells e e') {α : Type}
    (s : Store) :
    (evaluate s e' : Told α Bool).value = (evaluate s e : Told α Bool).value ∧
      (parse e').toOption.isSome = (parse e).toOption.isSome := by
  have hreading : reading e' = reading e := by
    induction h with
    | refl => rfl
    | tail _ hstep ih => rw [hstep.reading_eq, ih]
  constructor
  · rw [value_evaluate_eq_reading, hreading, value_evaluate_eq_reading]
  · rw [← Option.isSome_map (f := small), ← reading, hreading, reading, Option.isSome_map]

/-- In the other case, then with blanks around the operator, then with blanks around everything. -/
theorem evaluate_respelled_sanity :
    let s := (Store.ofSeeds .standard : Told Empty Store).value
    (evaluate s " sANITY >= 5\t" : Told Empty Bool).value =
        (evaluate s "Sanity>=5" : Told Empty Bool).value ∧
      (parse " sANITY >= 5\t").toOption.isSome = (parse "Sanity>=5").toOption.isSome := by
  intro s
  have hblank : [' '].all isBlank = true := by decide
  have htab : ['\t'].all isBlank = true := by decide
  have hrecased : Respells "Sanity>=5" "sANITY>=5" := .recased (by decide)
  have hsearch : Operator.search "sANITY>=5".toList =
      some (.greaterOrEqual, "sANITY".toList, "5".toList) := by decide
  have hspaced : Respells "sANITY>=5" "sANITY >= 5" :=
    .spaced hblank hblank hsearch (by decide)
  have hpadded : Respells "sANITY >= 5" " sANITY >= 5\t" :=
    .padded hblank htab (by decide)
  exact evaluate_respelled (((Relation.ReflTransGen.single hrecased).tail hspaced).tail hpadded) s

end Condition

end Storyline
