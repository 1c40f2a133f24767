import Storyline.Numeral
import Storyline.Text.Blank
import Storyline.Text.Scan

/-!
# Digits read back

The digits of a number are those of its quotient by the base and one more for the remainder
(`toDigits_induction`). Reading goes the same way: with each digit, what has been read so far is
multiplied by the base. So the digits of a number in a base of at most sixteen read back as that
number (`Text.digitsIn?_toDigits`).

Where nothing but decimal digits and a sign is admitted, an integer may still be written in many
ways. `Numeral.Spells` says in which. Just what spells an integer is read as it
(`Numeral.integer?_eq_some_iff`), and as a 32-bit integer if it fits
(`Numeral.readInt32?_eq_some_iff`), or as an index if it needs no minus sign
(`Numeral.readIndex?_eq_some_iff`); the texts that are written are among the spellings
(`Numeral.natural?_toDigits`, `Numeral.spells_plain`).
-/

namespace Storyline

/-- What holds of the number of a single digit, and goes on to one more digit at the end, holds of
every number and its digits. -/
theorem toDigits_induction {base : Nat} (hbase : 1 < base) {P : Nat → List Char → Prop}
    (single : ∀ d, d < base → P d [Nat.digitChar d])
    (more : ∀ n d ds, d < base → P n ds → P (n * base + d) (ds ++ [Nat.digitChar d])) (n : Nat) :
    P n (Nat.toDigits base n) := by
  induction n using Nat.strongRecOn with
  | ind n ih =>
    rcases Nat.lt_or_ge n base with hlt | hge
    · rw [Nat.toDigits_of_lt_base hlt]
      exact single n hlt
    · have hquotient : n / base < n := Nat.div_lt_self (by omega) hbase
      have hremainder : n % base < base := Nat.mod_lt n (by omega)
      have hmore := more (n / base) (n % base) _ hremainder (ih (n / base) hquotient)
      rw [Nat.div_add_mod' n base] at hmore
      rw [Nat.toDigits_of_base_le hbase hge]
      exact hmore

theorem isDigit_of_mem_toDigits {n : Nat} {c : Char} (h : c ∈ Nat.toDigits 10 n) :
    c.isDigit = true := Nat.isDigit_of_mem_toDigits (by decide) (Nat.le_refl 10) h

/-- Decimal digits begin with a digit. -/
theorem exists_toDigits_eq_cons (n : Nat) :
    ∃ d ds, Nat.toDigits 10 n = d :: ds ∧ d.isDigit = true ∧ ∀ c ∈ ds, c.isDigit = true := by
  obtain ⟨d, ds, hcons⟩ := List.exists_cons_of_ne_nil (Nat.toDigits_ne_nil (n := n) (b := 10))
  have hdigits : ∀ c ∈ d :: ds, c.isDigit = true := fun c hc ↦
    isDigit_of_mem_toDigits (hcons ▸ hc)
  exact ⟨d, ds, hcons, List.forall_mem_cons.mp hdigits⟩

theorem isDigit_ne {c d : Char} (hc : c.isDigit = true) (hd : d.isDigit = false) : c ≠ d := by
  rintro rfl
  rw [hc] at hd
  cases hd

namespace Text

theorem isBlank_of_isDigit {c : Char} (h : c.isDigit = true) : isBlank c = false := by
  rw [Char.isDigit_iff_toNat] at h
  simp only [isBlank]
  grind

/-- The digits of a base of at most sixteen are hexadecimal digits. -/
theorem hexDigit?_digitChar {d : Nat} (h : d < 16) : hexDigit? (Nat.digitChar d) = some d := by
  have hall : ∀ d < 16, hexDigit? (Nat.digitChar d) = some d := by decide
  exact hall d h

theorem digitChar_ne {d : Nat} (h : d < 16) {c : Char} (hc : hexDigit? c = none) :
    Nat.digitChar d ≠ c := by
  rintro rfl
  rw [hexDigit?_digitChar h] at hc
  cases hc

/-- The digits of a number read back as the number. -/
theorem digitsIn?_toDigits {base : Nat} (hbase : 1 < base) (hle : base ≤ 16) (n : Nat) :
    digitsIn? base (Nat.toDigits base n) = some n := by
  rw [digitsIn?]
  refine toDigits_induction hbase (P := fun n ds ↦ ds.foldlM _ 0 = some n) (fun d hd ↦ ?_)
    (fun n d ds hd ih ↦ ?_) n
  · have hne : Nat.digitChar d ≠ '_' := digitChar_ne (by omega) rfl
    simp [hne, hexDigit?_digitChar (show d < 16 by omega), hd]
  · have hne : Nat.digitChar d ≠ '_' := digitChar_ne (by omega) rfl
    rw [List.foldlM_append, ih]
    simp [hne, hexDigit?_digitChar (show d < 16 by omega), hd]

end Text

namespace Numeral

/-- Digits are read as the number that they make up behind those before them. -/
theorem digitsFrom?_eq_some_iff {acc n : Nat} {cs : List Char} :
    digitsFrom? acc cs = some n ↔ cs.all Char.isDigit = true ∧ Nat.ofDigitChars 10 cs acc = n := by
  induction cs generalizing acc with
  | nil => simp [digitsFrom?]
  | cons c cs ih =>
    rw [digitsFrom?, List.all_cons, Bool.and_eq_true, Nat.ofDigitChars_cons, Nat.mul_comm 10]
    split
    · rename_i hc
      rw [ih, and_iff_right hc]
    · rename_i hc
      simp [hc]

/-- How integers are written: as a run of decimal digits behind at most one sign. There may be any
number of zeros in front. -/
inductive Spells : List Char → Int → Prop where
  | bare {ds : List Char} (hne : ds ≠ []) (hds : ds.all Char.isDigit = true) :
      Spells ds (Nat.ofDigitChars 10 ds 0)
  | plus {ds : List Char} (hne : ds ≠ []) (hds : ds.all Char.isDigit = true) :
      Spells ('+' :: ds) (Nat.ofDigitChars 10 ds 0)
  | minus {ds : List Char} (hne : ds ≠ []) (hds : ds.all Char.isDigit = true) :
      Spells ('-' :: ds) (-Nat.ofDigitChars 10 ds 0)

/-- A natural number is read off digits only, and off one of them at least. -/
theorem natural?_eq_some_iff {n : Nat} {cs : List Char} :
    natural? cs = some n ↔
      cs ≠ [] ∧ cs.all Char.isDigit = true ∧ Nat.ofDigitChars 10 cs 0 = n := by
  rcases cs with - | ⟨c, cs⟩
  · simp [natural?]
  · rw [natural?, digitsFrom?_eq_some_iff]
    · simp
    · exact List.cons_ne_nil c cs

/-- The decimal digits of a number read back as the number. -/
theorem natural?_toDigits (n : Nat) : natural? (Nat.toDigits 10 n) = some n :=
  natural?_eq_some_iff.mpr ⟨Nat.toDigits_ne_nil,
    List.all_eq_true.mpr fun _ ↦ isDigit_of_mem_toDigits, Nat.ofDigitChars_ten_toDigits⟩

/-- What is read as an integer is how it is written. -/
theorem integer?_eq_some_iff {i : Int} {cs : List Char} : integer? cs = some i ↔ Spells cs i := by
  constructor
  · intro h
    unfold integer? at h
    split at h
    · obtain ⟨n, hn, rfl⟩ := Option.map_eq_some_iff.mp h
      obtain ⟨hne, hds, rfl⟩ := natural?_eq_some_iff.mp hn
      exact .plus hne hds
    · obtain ⟨m, hm, rfl⟩ := Option.map_eq_some_iff.mp h
      obtain ⟨n, hn, hcast⟩ := Option.bind_eq_some_iff.mp hm
      obtain ⟨hne, hds, rfl⟩ := natural?_eq_some_iff.mp hn
      cases hcast
      exact .minus hne hds
    · obtain ⟨n, hn, rfl⟩ := Option.map_eq_some_iff.mp h
      obtain ⟨hne, hds, rfl⟩ := natural?_eq_some_iff.mp hn
      exact .bare hne hds
  · intro h
    cases h with
    | plus hne hds => rw [integer?, natural?_eq_some_iff.mpr ⟨hne, hds, rfl⟩]; rfl
    | minus hne hds => rw [integer?, natural?_eq_some_iff.mpr ⟨hne, hds, rfl⟩]; rfl
    | bare hne hds =>
      rw [integer?, natural?_eq_some_iff.mpr ⟨hne, hds, rfl⟩]
      · rfl
      · rintro ds rfl
        simp at hds
      · rintro ds rfl
        simp at hds

/-- The words that are made of integers are those of their values. -/
theorem int32?_eq_some_iff {i : Int} {n : Int32} : int32? i = some n ↔ n.toInt = i := by
  have hmin : Int32.minValue.toInt ≤ n.toInt := n.minValue_le_toInt
  have hmax : n.toInt ≤ Int32.maxValue.toInt := Int32.le_iff_toInt_le.mp n.le_maxValue
  constructor
  · intro h
    rw [int32?] at h
    split at h
    · rename_i hrange
      rw [Bool.and_eq_true, decide_eq_true_eq, decide_eq_true_eq] at hrange
      rw [← Option.some.inj h, Int32.toInt_ofInt_of_le hrange.1 (Int.lt_add_one_of_le hrange.2)]
    · cases h
  · rintro rfl
    rw [int32?, decide_eq_true hmin, decide_eq_true hmax, Bool.and_self, if_pos rfl,
      Int32.ofInt_toInt]

/-- What is read as a 32-bit integer is how it is written; numbers that do not fit are not read. -/
theorem readInt32?_eq_some_iff {n : Int32} {cs : List Char} :
    readInt32? cs = some n ↔ Spells cs n.toInt := by
  rw [readInt32?, Option.bind_eq_some_iff, ← integer?_eq_some_iff]
  constructor
  · rintro ⟨i, hi, hn⟩
    rw [hi, int32?_eq_some_iff.mp hn]
  · intro h
    exact ⟨_, h, int32?_eq_some_iff.mpr rfl⟩

/-- No integer of 32 bits is read off a text that spells none. -/
theorem readInt32?_eq_none_iff {cs : List Char} :
    readInt32? cs = none ↔ ∀ n : Int32, ¬Spells cs n.toInt := by
  simp only [Option.eq_none_iff_forall_ne_some, ne_eq, readInt32?_eq_some_iff]

/-- Decimal digits without a sign are read as a number that is not negative. -/
theorem readInt32?_toDigits (n : Nat) : readInt32? (Nat.toDigits 10 n) = int32? n := by
  obtain ⟨hne, hds, hvalue⟩ := natural?_eq_some_iff.mp (natural?_toDigits n)
  have hspells := Spells.bare hne hds
  rw [hvalue] at hspells
  rw [readInt32?, integer?_eq_some_iff.mpr hspells, Option.bind_some]

/-- Behind a minus sign there is nothing positive. -/
theorem Spells.nonpos_of_minus {i : Int} {cs : List Char} (h : Spells cs i)
    (hminus : cs.head? = some '-') : i ≤ 0 := by
  cases h with
  | bare hne hds =>
    rcases cs with - | ⟨c, cs⟩
    · cases hminus
    · cases Option.some.inj hminus
      cases hds
  | plus hne hds => cases Option.some.inj hminus
  | minus hne hds => omega

/-- What is read as an index is how a number that fits in 64 bits is written without a minus
sign. -/
theorem readIndex?_eq_some_iff {n : Nat} {cs : List Char} :
    readIndex? cs = some n ↔
      Spells cs n ∧ cs.head? ≠ some '-' ∧ n < 18446744073709551616 := by
  have hcast (k : Option Nat) : k.map Int.ofNat = some (n : Int) ↔ k = some n := by
    rw [Option.map_eq_some_iff]
    constructor
    · rintro ⟨m, hm, heq⟩
      rw [hm, Int.ofNat_inj.mp heq]
    · exact fun h ↦ ⟨n, h, rfl⟩
  rw [← integer?_eq_some_iff]
  rcases cs with - | ⟨c, cs⟩
  · simp [readIndex?, integer?, natural?]
  · by_cases hplus : c = '+'
    · subst c
      rw [readIndex?, integer?, hcast, Option.filter_eq_some_iff]
      simp
    · have hread : readIndex? (c :: cs) =
          (natural? (c :: cs)).filter (· < 18446744073709551616) := by
        rw [readIndex?]
        intro ds h
        exact hplus (List.cons.inj h).1
      rw [hread, Option.filter_eq_some_iff]
      by_cases hminus : c = '-'
      · subst c
        simp [natural?_eq_some_iff]
      · rw [integer?, hcast]
        · simp [hminus]
        · exact fun ds h ↦ hplus (List.cons.inj h).1
        · exact fun ds h ↦ hminus (List.cons.inj h).1

/-- An integer in plain writing: a sign where it is negative, and its digits. -/
theorem toList_plain (i : Int) :
    (plain i).toList = (if i < 0 then ['-'] else []) ++ Nat.toDigits 10 i.natAbs := by
  rw [plain, decimal]
  split <;> simp

/-- The text of an integer spells it. -/
theorem spells_plain (i : Int) : Spells (plain i).toList i := by
  have hdigits := natural?_eq_some_iff.mp (natural?_toDigits i.natAbs)
  obtain ⟨hne, hds, hvalue⟩ := hdigits
  rw [toList_plain]
  by_cases hneg : i < 0
  · have h := Spells.minus hne hds
    rw [hvalue, ← Int.eq_neg_natAbs_of_nonpos (Int.le_of_lt hneg)] at h
    rwa [if_pos hneg]
  · have h := Spells.bare hne hds
    rw [hvalue, Int.natAbs_of_nonneg (Int.not_lt.mp hneg)] at h
    rwa [if_neg hneg]

/-- The text of a signed integer: its sign, and the digits of its size. -/
theorem toList_signed (i : Int) :
    (signed i).toList = (if i < 0 then '-' else '+') :: Nat.toDigits 10 i.natAbs := by
  rw [signed, plain, decimal]
  split <;> simp

end Numeral

end Storyline
