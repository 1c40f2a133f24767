import Storyline.Binary.Basic

/-!
# Rounding to a binary format

`Binary.ofRatio` rounds a quotient of natural numbers to the nearest number of a format, a half to
the even neighbour, and to infinity beyond the greatest finite number. Decimal texts and the
change from one format to another are both quotients, so they are rounded once and exactly.
-/

namespace Storyline

/-- The quotient rounded to the nearest integer, a half to the even one. -/
def roundHalfEven (num den : Nat) : Nat :=
  let q := num / den
  let twice := 2 * (num % den)
  if den < twice || (twice == den && q % 2 == 1) then q + 1 else q

/-- The quotient `num / (den · 2 ^ e)` as a pair of natural numbers. -/
def scaleRatio (num den : Nat) (e : Int) : Nat × Nat :=
  if 0 ≤ e then (num, den * Nat.pow 2 e.toNat) else (num * Nat.pow 2 (-e).toNat, den)

namespace Binary

variable {f : Format}

/-- The exponent that the last significant bit of `num / den` has in the format: the least one, or
the one that leaves `precision` bits before the point. -/
def lastExponent (f : Format) (num den : Nat) : Int :=
  let e : Int := (num.log2 : Int) - den.log2 - f.precision
  let (n, d) := scaleRatio num den e
  max f.minExponent (if n < Nat.pow 2 f.precision * d then e else e + 1)

/-- The bits of the number nearest to `num / den`, without a sign. -/
def roundedBits (f : Format) (num den : Nat) : Nat :=
  if num = 0 then 0
  else
    let e := lastExponent f num den
    let (n, d) := scaleRatio num den e
    min f.infinityBits ((e - f.minExponent).toNat * f.fractionLimit + roundHalfEven n d)

/-- The number nearest to `num / den`, with the given sign. -/
def ofRatio (negative : Bool) (num den : Nat) : Binary f :=
  ofFields negative (roundedBits f num den)

/-- The number nearest to `digits · 10 ^ e`, with the given sign. Where the decimal exponent alone
puts the value beyond every finite number of either format, or below half of the least one, the
power of ten is not computed. -/
def ofDecimal (negative : Bool) (digits : Nat) (e : Int) : Binary f :=
  let size : Int := (Nat.toDigits 10 digits).length + e
  if digits = 0 || size < -400 then ofFields negative 0
  else if 400 < size then infinity negative
  else if 0 ≤ e then ofRatio negative (digits * Nat.pow 10 e.toNat) 1
  else ofRatio negative digits (Nat.pow 10 (-e).toNat)

/-- The number of another format nearest to a number. -/
def convert {g : Format} (x : Binary f) : Binary g :=
  match x.value with
  | .nan negative => nan negative
  | .infinite negative => infinity negative
  | .finite negative m e =>
    let (n, d) := scaleRatio m 1 (-e)
    ofRatio negative n d

end Binary

end Storyline
