/-!
# Whole numbers as texts

Reading: a text stands for a 32-bit integer if it is a run of ASCII digits with at most one sign
in front and the number fits. A list index is read the same way from 64 unsigned bits, and admits
no minus sign. Nothing else is skipped or tolerated: no blanks, no separators, no other digits.

Writing: `signed` always shows the sign, as the texts of impacts and adjustments do.
-/

namespace Storyline

namespace Numeral

/-- The value of a list of ASCII digits, read after the digits of `acc`. -/
def digitsFrom? (acc : Nat) : List Char → Option Nat
  | [] => some acc
  | c :: cs => if c.isDigit then digitsFrom? (acc * 10 + (c.toNat - '0'.toNat)) cs else none

/-- The value of a run of ASCII digits with at least one digit. -/
def natural? : List Char → Option Nat
  | [] => none
  | cs => digitsFrom? 0 cs

/-- The value of a run of ASCII digits behind an optional sign. -/
def integer? : List Char → Option Int
  | '+' :: cs => (natural? cs).map Int.ofNat
  | '-' :: cs => (natural? cs).map fun n ↦ -(n : Int)
  | cs => (natural? cs).map Int.ofNat

/-- An integer as a 32-bit word, if it fits. -/
def int32? (i : Int) : Option Int32 :=
  if Int32.minValue.toInt ≤ i && i ≤ Int32.maxValue.toInt then some (Int32.ofInt i) else none

/-- The 32-bit integer that a text stands for. -/
def readInt32? (cs : List Char) : Option Int32 := (integer? cs).bind int32?

/-- The number that a text stands for, if it fits in 64 bits without a sign; a plus sign may stand
in front. -/
def readIndex? (cs : List Char) : Option Nat :=
  let digits := match cs with
    | '+' :: rest => rest
    | _ => cs
  (natural? digits).filter (· < 18446744073709551616)

/-- The decimal digits of a number, as text. -/
def decimal (n : Nat) : String := String.ofList (Nat.toDigits 10 n)

/-- An integer in decimal, with a minus sign where it is negative. -/
def plain (i : Int) : String := if i < 0 then "-" ++ decimal i.natAbs else decimal i.natAbs

/-- An integer in decimal, with its sign in front in any case. -/
def signed (i : Int) : String := if i < 0 then plain i else "+" ++ plain i

/-- A number as at least `width` digits, zeros in front. -/
def padded (width n : Nat) : List Char :=
  let digits := Nat.toDigits 10 n
  List.replicate (width - digits.length) '0' ++ digits

end Numeral

/-- The sum of two 32-bit integers, held at the nearer end of the range where it leaves it. -/
def saturatingAdd (a b : Int32) : Int32 := Int32.ofIntClamp (a.toInt + b.toInt)

end Storyline
