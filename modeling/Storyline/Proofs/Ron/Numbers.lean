import Storyline.Proofs.Text.Digits
import Storyline.Ron.Reader
import Storyline.Ron.Writer

/-!
# Numbers read back

The reader takes a number off the front of a text as far as its characters go, so what is written
is taken back only where something else follows it. Behind a value that is written stands nothing,
a comma, or the parenthesis that closes the value around it (`Ron.Delimited`), and there all of a
whole number (`Ron.int32?_plain`) and all of the text of a binary number (`Ron.floatText?_float`)
is taken.

Of the text of a binary number it is not proved here that it stands for that number, only that
nothing of it is lost on the way to `Binary.read?` (`Ron.float?_float`).
-/

namespace Storyline.Ron

open Text

/-! ### What follows a value -/

/-- A text that goes on behind a value: with nothing, with a comma, or with the parenthesis that
closes the value around it. -/
inductive Delimited : List Char → Prop where
  | nil : Delimited []
  | comma (rest : List Char) : Delimited (',' :: rest)
  | parenthesis (rest : List Char) : Delimited (')' :: rest)

variable {rest : List Char}

/-- No name goes on behind what is delimited. -/
theorem Delimited.continuesName (h : Delimited rest) : continuesName rest = false := by
  have hmarks : isIdentifierPart ',' = false ∧ isIdentifierPart ')' = false := by decide +kernel
  cases h <;> simp [Ron.continuesName, hmarks]

/-- No word stands there. -/
theorem Delimited.literal? (h : Delimited rest) {c : Char} (cs : List Char)
    (hc : c ≠ ',' ∧ c ≠ ')') : Text.literal? (c :: cs) rest = none := by
  cases h <;> simp [Text.literal?, hc.1, hc.2]

/-- Where a number is delimited, no keyword stands. -/
theorem Delimited.keyword? (h : Delimited rest) {word : String} {c : Char} {cs : List Char}
    (hword : word.toList = c :: cs) (hc : c ≠ ',' ∧ c ≠ ')') : keyword? word rest = none := by
  rw [Ron.keyword?, hword, h.literal? cs hc]
  rfl

/-- Characters of a kind are taken up to the end of the value. -/
theorem Delimited.takeWhile_append (h : Delimited rest) {p : Char → Bool} {cs : List Char}
    (hcs : ∀ c ∈ cs, p c = true) (hp : p ',' = false ∧ p ')' = false) :
    (cs ++ rest).takeWhile p = cs := by
  rw [List.takeWhile_append_of_pos hcs]
  cases h <;> simp [hp.1, hp.2]

/-! ### Whole numbers -/

theorem isIntegerPart_of_isDigit {c : Char} (h : c.isDigit = true) : isIntegerPart c = true := by
  simp [isIntegerPart, hexDigit?, h]

/-- Decimal digits are not taken for another base. -/
theorem base_toDigits (h : Delimited rest) (n : Nat) :
    base (Nat.toDigits 10 n ++ rest) = (10, Nat.toDigits 10 n ++ rest) := by
  obtain ⟨d, ds, hcons, -, hds⟩ := exists_toDigits_eq_cons n
  have hsecond {c : Char} (hc : c.isDigit = false ∧ c ≠ ',' ∧ c ≠ ')') (cs : List Char) :
      ds ++ rest ≠ c :: cs := by
    intro heq
    rcases ds with - | ⟨c', ds⟩
    · cases h with
      | nil => cases heq
      | comma rest => exact hc.2.1 (List.cons.inj heq).1.symm
      | parenthesis rest => exact hc.2.2 (List.cons.inj heq).1.symm
    · obtain ⟨rfl, -⟩ := List.cons.inj heq
      exact isDigit_ne (hds _ List.mem_cons_self) hc.1 rfl
  rw [hcons, List.cons_append, base]
  · exact fun cs heq ↦ hsecond (by decide) cs (List.cons.inj heq).2
  · exact fun cs heq ↦ hsecond (by decide) cs (List.cons.inj heq).2
  · exact fun cs heq ↦ hsecond (by decide) cs (List.cons.inj heq).2

/-- The digits of a natural number are read back as that number. -/
theorem natural?_toDigits (h : Delimited rest) (n : Nat) :
    natural? (Nat.toDigits 10 n ++ rest) = some (n, rest) := by
  obtain ⟨d, ds, hcons, hd, hds⟩ := exists_toDigits_eq_cons n
  have htake : (Nat.toDigits 10 n ++ rest).takeWhile isIntegerPart = Nat.toDigits 10 n := by
    refine h.takeWhile_append (fun c hc ↦ isIntegerPart_of_isDigit ?_) (by decide)
    exact isDigit_of_mem_toDigits hc
  have hfirst : ((Nat.toDigits 10 n).isEmpty || (Nat.toDigits 10 n).head? = some '_') = false := by
    simp [hcons, isDigit_ne hd (show '_'.isDigit = false by decide)]
  rw [natural?, base_toDigits h]
  dsimp only
  rw [htake, hfirst, if_neg Bool.false_ne_true, digitsIn?_toDigits (by decide) (by decide),
    List.drop_left]
  rfl

/-- Behind a whole number that is written no type stands. -/
theorem integerType?_of_delimited (h : Delimited rest) : integerType? rest = none := by
  have hwords : ∀ t ∈ integerTypes,
      t.word.toList.head? = some 'i' ∨ t.word.toList.head? = some 'u' := by
    decide +kernel
  rw [integerType?, List.findSome?_eq_none_iff]
  intro t ht
  rw [Option.map_eq_none_iff]
  rcases hwords t ht with hhead | hhead
  · obtain ⟨cs, hword⟩ := List.head?_eq_some_iff.mp hhead
    exact h.keyword? hword (by decide)
  · obtain ⟨cs, hword⟩ := List.head?_eq_some_iff.mp hhead
    exact h.keyword? hword (by decide)

/-- An integer is read back as it was written, and has no suffix. -/
theorem integer?_plain (h : Delimited rest) (i : Int) :
    integer? ((Numeral.plain i).toList ++ rest) = some (i, none, rest) := by
  have hdigits (negative : Bool) : DecimalLiteral.takeSign
      ((if negative then ['-'] else []) ++ Nat.toDigits 10 i.natAbs ++ rest) =
        (negative, Nat.toDigits 10 i.natAbs ++ rest) := by
    rcases negative with - | -
    · obtain ⟨d, ds, hcons, hd, -⟩ := exists_toDigits_eq_cons i.natAbs
      rw [if_neg Bool.false_ne_true, List.nil_append, hcons, List.cons_append,
        DecimalLiteral.takeSign]
      · exact fun cs heq ↦ isDigit_ne hd (by decide) (List.cons.inj heq).1
      · exact fun cs heq ↦ isDigit_ne hd (by decide) (List.cons.inj heq).1
    · rfl
  have htext : (Numeral.plain i).toList =
      (if i < 0 then ['-'] else []) ++ Nat.toDigits 10 i.natAbs := by
    rw [Numeral.plain, Numeral.decimal]
    split <;> simp
  have hvalue : (if i < 0 then -(i.natAbs : Int) else i.natAbs) = i := by
    split <;> omega
  have hsign := hdigits (decide (i < 0))
  simp only [decide_eq_true_eq] at hsign
  rw [integer?, htext, hsign]
  simp only [natural?_toDigits h, base_toDigits h, integerType?_of_delimited h, decide_eq_true_eq,
    hvalue]
  rfl

/-- A 32-bit integer is read back. -/
theorem int32?_plain (h : Delimited rest) (n : Int32) :
    int32? ((Numeral.plain n.toInt).toList ++ rest) = some (n, rest) := by
  have hword : Numeral.int32? n.toInt = some n := Numeral.int32?_eq_some_iff.mpr rfl
  rw [int32?, integer?_plain h]
  simp [hword]

/-! ### Binary numbers -/

/-- The characters of a number with digits. -/
def isDecimalPart (c : Char) : Bool := c.isDigit || c = '.'

theorem isDecimalPart_of_isDigit {c : Char} (h : c.isDigit = true) : isDecimalPart c = true := by
  rw [isDecimalPart, h, Bool.true_or]

/-- A number in positional notation is written in digits and points, and begins with a digit. -/
theorem positionalText_spec (keepsFraction : Bool) {digits : List Char} (hne : digits ≠ [])
    (hdigits : ∀ c ∈ digits, c.isDigit = true) (power : Int) :
    ∃ c cs, FloatStyle.positionalText keepsFraction digits power = c :: cs ∧ c.isDigit = true ∧
      ∀ e ∈ cs, isDecimalPart e = true := by
  obtain ⟨d, ds, rfl⟩ := List.exists_cons_of_ne_nil hne
  have hzero : '0'.isDigit = true := by decide
  have hzeros (n : Nat) : ∀ c ∈ List.replicate n '0', c.isDigit = true := fun c hc ↦ by
    rw [List.eq_of_mem_replicate hc]
    exact hzero
  -- the part before the point is not empty, and the part behind it may be filled up
  have hfraction {cs : List Char} (hcs : ∀ c ∈ cs, c.isDigit = true) :
      ∀ e ∈ (if cs.isEmpty then (if keepsFraction then ['.', '0'] else []) else '.' :: cs),
        isDecimalPart e = true := by
    intro e he
    split at he
    · split at he
      · have he : e = '.' ∨ e = '0' := by simpa using he
        rcases he with rfl | rfl <;> decide
      · cases he
    · rcases List.mem_cons.mp he with rfl | he
      · decide
      · exact isDecimalPart_of_isDigit (hcs e he)
  rw [FloatStyle.positionalText]
  split
  · refine ⟨'0', _, rfl, hzero, hfraction fun c hc ↦ ?_⟩
    exact (List.mem_append.mp hc).elim (hzeros _ c) (hdigits c)
  · refine ⟨d, _, rfl, hdigits d List.mem_cons_self, fun e he ↦ ?_⟩
    rcases List.mem_append.mp he with he | he
    · refine isDecimalPart_of_isDigit ?_
      rcases List.mem_append.mp he with he | he
      · exact hdigits e (List.mem_cons_of_mem d (List.mem_of_mem_take he))
      · exact hzeros _ e he
    · exact hfraction (fun c hc ↦ hdigits c (List.mem_of_mem_drop hc)) e he

/-- The text of a binary number is one of the words for numbers without digits, or it has digits
and points behind a digit, with a minus sign before it or not. -/
theorem float_cases {f : Format} (x : Binary f) :
    (∃ word ∈ floatWords, (Writer.float x 0).toList = word.toList) ∨
      ∃ (negative : Bool) (c : Char) (cs : List Char),
        (Writer.float x 0).toList = (if negative then ['-'] else []) ++ c :: cs ∧
          c.isDigit = true ∧ ∀ e ∈ cs, isDecimalPart e = true := by
  rw [Writer.float, Binary.text]
  rcases hnan : x.isNaN with - | -
  · -- a number with a value has its sign in its text
    rcases hvalue : x.value with negative | negative | ⟨negative, m, e⟩
    · rw [Binary.value, hnan] at hvalue
      split at hvalue
      · contradiction
      · split at hvalue
        · cases hvalue
        · split at hvalue <;> cases hvalue
    · refine .inl ⟨if negative then "-inf" else "inf", ?_, ?_⟩
      · rcases negative <;> simp [floatWords]
      · rcases negative <;> simp
    · right
      let d : Decimal := if m = 0 then ⟨0, 0⟩ else shortestDecimal f m e
      have hdigits : ∀ c ∈ Nat.toDigits 10 d.digits, c.isDigit = true := fun c hc ↦
        isDigit_of_mem_toDigits hc
      obtain ⟨c, cs, htext, hc, hcs⟩ := positionalText_spec true Nat.toDigits_ne_nil hdigits
        (d.exponent + (Nat.toDigits 10 d.digits).length - 1)
      refine ⟨negative, c, cs, ?_, hc, hcs⟩
      rw [← htext]
      rcases negative <;> simp [FloatStyle.decimal, FloatStyle.saved, d]
  · refine .inl ⟨if x.isNegative then "-NaN" else "NaN", ?_, ?_⟩
    · rcases x.isNegative <;> simp [floatWords]
    · rw [Binary.value, hnan]
      rcases x.isNegative <;> simp

/-- A token that stands first is taken off. -/
@[simp] theorem literal?_append (token cs : List Char) :
    Text.literal? token (token ++ cs) = some cs := by
  rw [Text.literal?, if_pos (List.isPrefixOf_iff_prefix.mpr (List.prefix_append token cs)),
    List.drop_left]

@[simp] theorem literal?_singleton (mark : Char) (cs : List Char) :
    Text.literal? [mark] (mark :: cs) = some cs :=
  literal?_append [mark] cs

/-- A token that does not stand first is not found. -/
theorem literal?_eq_none {token cs : List Char} (h : ¬ token <+: cs) :
    Text.literal? token cs = none := by
  rw [Text.literal?, if_neg (by rwa [List.isPrefixOf_iff_prefix])]

/-- Where only one candidate answers, its answer is found. -/
theorem findSome?_eq_some_of_unique {α β : Type} {f : α → Option β} {as : List α} {a : α} {b : β}
    (hmem : a ∈ as) (ha : f a = some b) (hother : ∀ a' ∈ as, a' ≠ a → f a' = none) :
    as.findSome? f = some b := by
  obtain ⟨before, after, rfl, hbefore⟩ := List.eq_append_cons_of_mem hmem
  have hnone : before.findSome? f = none := by
    rw [List.findSome?_eq_none_iff]
    exact fun a' ha' ↦ hother a' (by simp [ha']) (ne_of_mem_of_not_mem ha' hbefore)
  rw [List.findSome?_append, hnone, List.findSome?_cons, ha]
  rfl

/-- A word for a number without digits is taken as a whole. -/
theorem floatText?_word (h : Delimited rest) {word : String} (hword : word ∈ floatWords) :
    floatText? (word.toList ++ rest) = some (word.toList, rest) := by
  -- none of the words is the beginning of another, so no other is at the front of the text
  have hunique : ∀ v ∈ floatWords, ∀ w ∈ floatWords, v.toList <+: w.toList → v = w := by
    decide +kernel
  have hother : ∀ v ∈ floatWords, v ≠ word →
      Text.literal? v.toList (word.toList ++ rest) = none := by
    intro v hv hne
    refine literal?_eq_none fun hfront ↦ hne ?_
    have hword' := List.prefix_append word.toList rest
    rcases List.prefix_or_prefix_of_prefix hfront hword' with hvw | hwv
    · exact hunique v hv word hword hvw
    · exact (hunique word hword v hv hwv).symm
  rw [floatText?, findSome?_eq_some_of_unique hword (b := (word.toList, rest))]
  · rw [literal?_append, Option.bind_some, h.continuesName]
    rfl
  · intro v hv hne
    rw [hother v hv hne]
    rfl

/-- Nothing is dropped where no underscore stands. -/
theorem dropUnderscores_eq_self {cs : List Char} (hcs : ∀ c ∈ cs, c ≠ '_') (allowed : Bool) :
    dropUnderscores allowed cs = some cs := by
  induction cs generalizing allowed with
  | nil => rfl
  | cons c cs ih =>
    obtain ⟨hc, hcs⟩ := List.forall_mem_cons.mp hcs
    rw [dropUnderscores, if_neg hc]
    dsimp only
    rw [ih hcs]
    rfl

/-- A number with digits is taken as a whole. -/
theorem floatText?_digits (h : Delimited rest) (negative : Bool) {c : Char} {cs : List Char}
    (hc : c.isDigit = true) (hcs : ∀ e ∈ cs, isDecimalPart e = true) :
    floatText? ((if negative then ['-'] else []) ++ c :: cs ++ rest) =
      some ((if negative then ['-'] else []) ++ c :: cs, rest) := by
  -- the first two characters of a word are no digits, and the text has one among its first two
  have hletters : ∀ w ∈ floatWords,
      w.toList.length ≠ 0 ∧ w.toList.length ≠ 1 ∧ (w.toList.take 2).all (!·.isDigit) = true := by
    decide +kernel
  have hnoWord : ∀ w ∈ floatWords,
      Text.literal? w.toList ((if negative then ['-'] else []) ++ c :: cs ++ rest) = none := by
    intro w hw
    have hw := hletters w hw
    refine literal?_eq_none fun hfront ↦ ?_
    generalize w.toList = word at hw hfront
    obtain ⟨hempty, hsingle, hnoDigit⟩ := hw
    rcases word with - | ⟨d, - | ⟨e, ds⟩⟩
    · exact hempty rfl
    · exact hsingle rfl
    · obtain ⟨hd, he⟩ : d.isDigit = false ∧ e.isDigit = false := by simpa using hnoDigit
      rcases negative with - | -
      · exact isDigit_ne hc hd (List.cons_prefix_cons.mp hfront).1.symm
      · have hrest := (List.cons_prefix_cons.mp hfront).2
        exact isDigit_ne hc he (List.cons_prefix_cons.mp hrest).1.symm
  have hpart {e : Char} (he : isDecimalPart e = true) : isFloatPart e = true ∧ e ≠ '_' := by
    rw [isDecimalPart, Bool.or_eq_true, decide_eq_true_eq] at he
    rcases he with he | rfl
    · exact ⟨by simp [isFloatPart, he], isDigit_ne he (by decide)⟩
    · decide
  have hall : ∀ e ∈ (if negative then ['-'] else []) ++ c :: cs,
      isFloatPart e = true ∧ e ≠ '_' := by
    intro e he
    rcases List.mem_append.mp he with he | he
    · split at he
      · rw [List.mem_singleton.mp he]
        decide
      · cases he
    · rcases List.mem_cons.mp he with rfl | he
      · exact hpart (isDecimalPart_of_isDigit hc)
      · exact hpart (hcs e he)
  have htake := h.takeWhile_append (fun e he ↦ (hall e he).1) (p := isFloatPart) (by decide)
  rw [floatText?, List.findSome?_eq_none_iff.mpr fun w hw ↦ by rw [hnoWord w hw]; rfl]
  dsimp only
  rw [htake, dropUnderscores_eq_self fun e he ↦ (hall e he).2, List.drop_left]
  simp

/-- The text of a binary number is taken as a whole. -/
theorem floatText?_float (h : Delimited rest) {f : Format} (x : Binary f) :
    floatText? ((Writer.float x 0).toList ++ rest) = some ((Writer.float x 0).toList, rest) := by
  rcases float_cases x with ⟨word, hword, htext⟩ | ⟨negative, c, cs, htext, hc, hcs⟩
  · rw [htext]
    exact floatText?_word h hword
  · rw [htext]
    exact floatText?_digits h negative hc hcs

/-- A binary number is read as what its text stands for. -/
theorem float?_float (h : Delimited rest) {f : Format} {x y : Binary f}
    (hxy : Binary.read? (Writer.float x 0).toList = some y) {word : String} {c : Char}
    {cs : List Char} (hword : word.toList = c :: cs) (hc : c ≠ ',' ∧ c ≠ ')') :
    float? word ((Writer.float x 0).toList ++ rest) = some (y, rest) := by
  rw [float?, floatText?_float h]
  simp only [hxy, h.keyword? hword hc]
  rfl

end Storyline.Ron
