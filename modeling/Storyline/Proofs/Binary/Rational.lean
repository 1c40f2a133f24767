import Mathlib.Algebra.Order.Field.Power
import Mathlib.Data.Rat.Cast.Order
import Mathlib.Tactic.Linarith
import Mathlib.Tactic.Positivity
import Storyline.Binary.Rounding

/-!
# Finite numbers as rationals

The bits of a finite number stand for a rational, the signed multiple of a power of two that
`Binary.value` reads (`Binary.toRat?`). What the engine asks of the bits is a question about this
rational: they are finite exactly if there is one (`Binary.isSome_toRat?`), and below zero exactly
if it is (`Binary.isBelowZero_iff`). Rounding to a whole number moves a quotient by a half at most
(`abs_roundHalfEven_sub_le`).
-/

namespace Storyline

/-! ### Rounding -/

/-- A whole number is rounded to itself. -/
theorem roundHalfEven_one (n : Nat) : roundHalfEven n 1 = n := by
  simp [roundHalfEven, Nat.mod_one]

/-- Twice what rounding adds or takes away is no more than the divisor. -/
theorem roundHalfEven_bounds (n : Nat) {d : Nat} (hd : 0 < d) :
    2 * (roundHalfEven n d * d) ≤ 2 * n + d ∧ 2 * n ≤ 2 * (roundHalfEven n d * d) + d := by
  have hdiv : n / d * d + n % d = n := Nat.div_add_mod' n d
  have hmod : n % d < d := Nat.mod_lt n hd
  rw [roundHalfEven]
  split
  · rename_i hup
    have htwice : d ≤ 2 * (n % d) := by
      simp only [Bool.or_eq_true, decide_eq_true_eq, Bool.and_eq_true, beq_iff_eq] at hup
      omega
    rw [Nat.add_mul, Nat.one_mul]
    omega
  · rename_i hdown
    have htwice : 2 * (n % d) ≤ d := by
      simp only [Bool.or_eq_true, decide_eq_true_eq] at hdown
      omega
    omega

/-- Rounding moves a quotient by a half at most. -/
theorem abs_roundHalfEven_sub_le (n : Nat) {d : Nat} (hd : 0 < d) :
    |(roundHalfEven n d : ℚ) - n / d| ≤ 1 / 2 := by
  obtain ⟨hle, hge⟩ := roundHalfEven_bounds n hd
  have hdQ : (0 : ℚ) < d := by exact_mod_cast hd
  have hleQ : 2 * ((roundHalfEven n d : ℚ) * d) ≤ 2 * n + d := by exact_mod_cast hle
  have hgeQ : 2 * (n : ℚ) ≤ 2 * (roundHalfEven n d * d) + d := by exact_mod_cast hge
  have hquotient : (n : ℚ) / d * d = n := div_mul_cancel₀ _ hdQ.ne'
  rw [abs_le]
  constructor <;> nlinarith

/-- A quotient that is scaled is divided by the power of two. -/
theorem scaleRatio_div (num den : Nat) (e : Int) :
    ((scaleRatio num den e).1 : ℚ) / (scaleRatio num den e).2 = num / den * 2 ^ (-e) := by
  rw [scaleRatio]
  split
  · rename_i he
    obtain ⟨k, rfl⟩ := Int.eq_ofNat_of_zero_le he
    rw [zpow_neg, ← div_eq_mul_inv, div_div]
    simp
  · rename_i he
    obtain ⟨k, hk⟩ := Int.eq_ofNat_of_zero_le (show 0 ≤ -e by omega)
    rw [hk, div_mul_eq_mul_div]
    simp

/-- Scaling by a power of two keeps the denominator positive. -/
theorem scaleRatio_snd_pos (num : Nat) {den : Nat} (hden : 0 < den) (e : Int) :
    0 < (scaleRatio num den e).2 := by
  rw [scaleRatio]
  split
  · exact Nat.mul_pos hden (Nat.two_pow_pos _)
  · exact hden

/-! ### The number that bits stand for -/

namespace Binary

variable {f : Format} {x : Binary f}

/-- The number that the bits stand for, if they are those of a finite number. -/
def toRat? (x : Binary f) : Option ℚ :=
  match x.value with
  | .finite negative m e => some ((if negative then -1 else 1) * m * 2 ^ e)
  | .nan _ | .infinite _ => none

/-- What is finite is a number. -/
theorem isNaN_of_isFinite (h : x.isFinite = true) : x.isNaN = false := by
  rw [isFinite, decide_eq_true_eq] at h
  rw [isNaN, decide_eq_false_iff_not]
  omega

/-- Finite bits are read as a mantissa and a power of two. The mantissa has no more than the
`precision` bits of the format, and a number is below zero if it has a sign and a mantissa. -/
theorem value_of_isFinite (h : x.isFinite = true) :
    ∃ m e, x.value = .finite x.isNegative m e ∧ m < 2 * f.fractionLimit ∧
      x.isBelowZero = (x.isNegative && m != 0) := by
  have hpos : 0 < f.fractionLimit := Nat.two_pow_pos _
  have hfraction : x.magnitude % f.fractionLimit < f.fractionLimit := Nat.mod_lt _ hpos
  have hnumber := isNaN_of_isFinite h
  rw [value, isBelowZero]
  simp only [hnumber, h, Bool.not_true, Bool.false_eq_true, if_false, Bool.not_false, Bool.true_and]
  split
  · rename_i hfield
    have hsmall : x.magnitude < f.fractionLimit := (Nat.div_eq_zero_iff_lt hpos).mp hfield
    refine ⟨_, _, rfl, by omega, ?_⟩
    rw [Nat.mod_eq_of_lt hsmall]
  · rename_i hfield
    have hmagnitude : x.magnitude ≠ 0 := fun hzero ↦ hfield (by rw [hzero, Nat.zero_div])
    have hmantissa : f.fractionLimit + x.magnitude % f.fractionLimit ≠ 0 := by omega
    refine ⟨_, _, rfl, by omega, ?_⟩
    rw [bne_iff_ne.mpr hmagnitude, bne_iff_ne.mpr hmantissa]

/-- Exactly the finite bits stand for a rational number. -/
theorem isSome_toRat? : x.toRat?.isSome = x.isFinite := by
  rcases h : x.isFinite with - | -
  · rw [toRat?, value]
    simp only [h, Bool.not_false, if_true]
    rcases x.isNaN with - | - <;> rfl
  · obtain ⟨m, e, hvalue, -⟩ := value_of_isFinite h
    rw [toRat?, hvalue, Option.isSome_some]

theorem isFinite_of_toRat? {q : ℚ} (hq : x.toRat? = some q) : x.isFinite = true := by
  rw [← isSome_toRat?, hq, Option.isSome_some]

/-- The bits are those of a number below zero exactly if it is below zero. -/
theorem isBelowZero_iff {q : ℚ} (hq : x.toRat? = some q) : x.isBelowZero = true ↔ q < 0 := by
  obtain ⟨m, e, hvalue, -, hbelow⟩ := value_of_isFinite (isFinite_of_toRat? hq)
  have hpow : (0 : ℚ) < 2 ^ e := by positivity
  rw [toRat?, hvalue, Option.some.injEq] at hq
  subst hq
  rcases hsign : x.isNegative with - | -
  · have habove : (0 : ℚ) ≤ m * 2 ^ e := by positivity
    simpa [hbelow, hsign] using habove
  · have hmantissa : (0 : ℚ) < m * 2 ^ e ↔ m ≠ 0 := by
      rw [mul_pos_iff_of_pos_right hpow, Nat.cast_pos, Nat.pos_iff_ne_zero]
    simp [hbelow, hsign, hmantissa]

/-- Finite bits of a number that is not below zero need no sign. -/
theorem toRat?_of_not_isBelowZero {negative : Bool} {m : Nat} {e : Int}
    (hvalue : x.value = .finite negative m e) (habove : (negative && m != 0) = false) :
    x.toRat? = some ((m : ℚ) * 2 ^ e) := by
  rw [toRat?, hvalue]
  rcases negative with - | -
  · simp
  · have hm : m = 0 := by simpa using habove
    simp [hm]

end Binary

end Storyline
