/-!
# Binary floating-point numbers

A number of a binary format is its bits. The engine stores, compares, reads and writes such
numbers but never computes with them, so everything else is exact arithmetic on natural numbers:
`value` reads the bits as a signed multiple `m · 2 ^ q` of a power of two, an infinity or no
number at all.
-/

namespace Storyline

/-- A binary interchange format. -/
structure Format where
  /-- The significant bits of a normal number, the leading one counted. -/
  precision : Nat
  /-- The bits of the exponent field. -/
  exponentBits : Nat

namespace Format

/-- The format of 32 bits. -/
def single : Format := ⟨24, 8⟩

/-- The format of 64 bits. -/
def double : Format := ⟨53, 11⟩

variable (f : Format)

/-- The number of bits: a sign, the exponent field, and the significand without its leading
one. -/
def width : Nat := f.precision + f.exponentBits

/-- The exponent of the last significant bit of the smallest numbers. -/
def minExponent : Int := 3 - Nat.pow 2 (f.exponentBits - 1) - f.precision

/-- One more than the greatest fraction field. -/
def fractionLimit : Nat := Nat.pow 2 (f.precision - 1)

/-- One more than the greatest exponent field. -/
def exponentLimit : Nat := Nat.pow 2 f.exponentBits

/-- The bits of infinity. The bits of a finite number without its sign are below. -/
def infinityBits : Nat := (f.exponentLimit - 1) * f.fractionLimit

/-- The value of the sign bit. -/
def signBit : Nat := f.exponentLimit * f.fractionLimit

end Format

/-- A number of a binary format, by its bits. -/
structure Binary (f : Format) where
  /-- The sign, the exponent field and the fraction field, from the highest bit down. -/
  bits : BitVec f.width
  deriving DecidableEq

/-- A number of 32 bits. -/
abbrev Binary32 := Binary .single

/-- A number of 64 bits. -/
abbrev Binary64 := Binary .double

/-- What the bits of a number stand for. -/
inductive BinaryValue where
  /-- No number. -/
  | nan (negative : Bool)
  /-- An infinity. -/
  | infinite (negative : Bool)
  /-- The number `mantissa · 2 ^ exponent`, negated where `negative`; zero has both signs. -/
  | finite (negative : Bool) (mantissa : Nat) (exponent : Int)

namespace Binary

variable {f : Format}

/-- A number from the sign and the other bits. -/
def ofFields (negative : Bool) (magnitude : Nat) : Binary f :=
  ⟨BitVec.ofNat f.width ((if negative then f.signBit else 0) + magnitude)⟩

/-- Zero, with the sign positive. -/
def zero : Binary f := ofFields false 0

/-- An infinity. -/
def infinity (negative : Bool) : Binary f := ofFields negative f.infinityBits

/-- The quiet number that is no number. -/
def nan (negative : Bool) : Binary f :=
  ofFields negative (f.infinityBits + f.fractionLimit / 2)

/-- The bits without the sign. -/
def magnitude (x : Binary f) : Nat := x.bits.toNat % f.signBit

/-- Whether the sign bit is set. -/
def isNegative (x : Binary f) : Bool := f.signBit ≤ x.bits.toNat

/-- Whether the bits stand for no number. -/
def isNaN (x : Binary f) : Bool := f.infinityBits < x.magnitude

/-- Whether the bits stand for a finite number. -/
def isFinite (x : Binary f) : Bool := x.magnitude < f.infinityBits

/-- What the bits stand for. -/
def value (x : Binary f) : BinaryValue :=
  let field := x.magnitude / f.fractionLimit
  let fraction := x.magnitude % f.fractionLimit
  if x.isNaN then .nan x.isNegative
  else if !x.isFinite then .infinite x.isNegative
  else if field = 0 then .finite x.isNegative fraction f.minExponent
  else .finite x.isNegative (f.fractionLimit + fraction) (f.minExponent + field - 1)

/-- Whether a number is above zero; infinity is, and what is no number is not. -/
def isPositive (x : Binary f) : Bool := !x.isNaN && !x.isNegative && x.magnitude != 0

/-- Whether a number is below zero; a negative zero is not. -/
def isBelowZero (x : Binary f) : Bool := !x.isNaN && x.isNegative && x.magnitude != 0

end Binary

end Storyline
