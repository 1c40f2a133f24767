import Storyline.Binary.Rounding

/-!
# The fewest digits that read back

`Binary.shortest` gives the decimal number with the fewest digits among those that round to a
given binary number; of two with equally many the nearer one, and at an exact tie the greater. The
numbers that round to `m · 2 ^ e` form an interval around it, whose ends belong to it where `m` is
even. For each count of digits only the two neighbours of the number on the grid of that many
digits are tried: if a point of the grid lies in the interval, then so does one of them.
-/

namespace Storyline

/-- The decimal number `digits · 10 ^ exponent`. -/
structure Decimal where
  /-- The digits, read as a whole number. -/
  digits : Nat
  /-- The power of ten that they count. -/
  exponent : Int

namespace Decimal

/-- Moves zeros from the end of the digits to the exponent, `fuel` of them at most. -/
def dropZeros : Nat → Decimal → Decimal
  | 0, d => d
  | fuel + 1, d =>
    if d.digits % 10 = 0 && d.digits != 0 then dropZeros fuel ⟨d.digits / 10, d.exponent + 1⟩ else d

end Decimal

/-- The numbers that round to a binary number `value`, in units of a power of two. The ends belong
to the interval where `closed`. -/
structure RoundingInterval where
  /-- The lower end. -/
  lower : Nat
  /-- The binary number itself. -/
  value : Nat
  /-- The upper end. -/
  upper : Nat
  /-- The exponent of the unit. -/
  unit : Int
  /-- Whether the ends round to the number, too. -/
  closed : Bool

namespace RoundingInterval

/-- The interval around `m · 2 ^ e`. The neighbour below a power of two is only half as far away,
except below the least normal number. -/
def around (f : Format) (m : Nat) (e : Int) : RoundingInterval where
  lower := if m = f.fractionLimit && f.minExponent < e then 4 * m - 1 else 4 * m - 2
  value := 4 * m
  upper := 4 * m + 2
  unit := e - 2
  closed := m % 2 == 0

/-- The point of a decimal grid nearest to the number among its two neighbours on that grid, if
one of them lies in the interval; `num / den` is the length of a unit of the interval in steps of
the grid. -/
def gridPoint? (r : RoundingInterval) (num den : Nat) : Option Nat :=
  let below := r.value * num / den
  let above := below + 1
  let inside (p : Nat) : Bool :=
    let p := p * den
    if r.closed then r.lower * num ≤ p && p ≤ r.upper * num
    else r.lower * num < p && p < r.upper * num
  let aboveIsNearer := above * den - r.value * num ≤ r.value * num - below * den
  match inside below, inside above with
  | true, true => some (if aboveIsNearer then above else below)
  | true, false => some below
  | false, true => some above
  | false, false => none

/-- The length of a unit in steps of the grid `10 ^ k`, as a quotient. -/
def unitLength (r : RoundingInterval) (k : Int) : Nat × Nat :=
  let (n, d) := scaleRatio 1 1 (-r.unit)
  if 0 ≤ k then (n, d * Nat.pow 10 k.toNat) else (n * Nat.pow 10 (-k).toNat, d)

/-- The first hit among the grids `10 ^ k`, `10 ^ (k - 1)`, …, `fuel` of them. -/
def firstGridPoint (r : RoundingInterval) : Nat → Int → Option Decimal
  | 0, _ => none
  | fuel + 1, k =>
    let (n, d) := r.unitLength k
    match r.gridPoint? n d with
    | some p => some ⟨p, k⟩
    | none => firstGridPoint r fuel (k - 1)

end RoundingInterval

/-- The number of decimal digits before the point of `num / den`; for a quotient below one, the
count is zero or minus the zeros that follow the point. -/
def decimalSize (num den : Nat) : Int :=
  if den ≤ num then (Nat.toDigits 10 (num / den)).length
  else 1 - (Nat.toDigits 10 ((den + num - 1) / num - 1)).length

/-- The decimal number with the fewest digits that reads back as `m · 2 ^ e`, for positive `m`. -/
def shortestDecimal (f : Format) (m : Nat) (e : Int) : Decimal :=
  let (n, d) := scaleRatio m 1 (-e)
  let start := decimalSize n d
  match (RoundingInterval.around f m e).firstGridPoint 20 start with
  | some p => p.dropZeros 20
  | none => ⟨0, 0⟩

end Storyline
