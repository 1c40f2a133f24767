import Storyline.Binary.Shortest
import Storyline.Numeral

/-!
# Binary numbers as texts

A number is written with the fewest digits that read back. What remains to be decided is where
positional notation ends and whether a whole number keeps the fraction `.0`; a `FloatStyle` holds
these decisions, and there are three: the plain text of a number in a message, the text in a log
record, and the text in a saved file.
-/

namespace Storyline

/-- How the digits of a number are set. -/
structure FloatStyle where
  /-- Whether a whole number in positional notation ends in `.0`. -/
  keepsFraction : Bool
  /-- The powers of ten of the first digit that are written positionally, from the first to below
  the second; all of them if there are no bounds. -/
  positional : Option (Int × Int)

namespace FloatStyle

/-- Always positional, and without a fraction for whole numbers. -/
def plain : FloatStyle := ⟨false, none⟩

/-- Always positional, with a fraction also for whole numbers. -/
def saved : FloatStyle := ⟨true, none⟩

/-- Positional from `0.0001` to below ten to the sixteenth, with a fraction also for whole
numbers. -/
def logged : FloatStyle := ⟨true, some (-4, 16)⟩

/-- The digits with a point after the first, and the power of ten of the first. -/
def scientific (digits : List Char) (power : Int) : List Char :=
  let fraction := digits.drop 1
  digits.take 1 ++ (if fraction.isEmpty then [] else '.' :: fraction) ++
    'e' :: (Numeral.plain power).toList

/-- The digits with a point at their place, zeros filled in on either side. -/
def positionalText (keepsFraction : Bool) (digits : List Char) (power : Int) : List Char :=
  let whole : List Char :=
    if power < 0 then ['0']
    else digits.take (power.toNat + 1) ++ List.replicate (power.toNat + 1 - digits.length) '0'
  let fraction : List Char :=
    if power < 0 then List.replicate ((-power).toNat - 1) '0' ++ digits
    else digits.drop (power.toNat + 1)
  whole ++ (if fraction.isEmpty then (if keepsFraction then ['.', '0'] else [])
    else '.' :: fraction)

/-- A decimal number in this style. -/
def decimal (style : FloatStyle) (d : Decimal) : List Char :=
  let digits := Nat.toDigits 10 d.digits
  let power := d.exponent + digits.length - 1
  match style.positional with
  | some (low, high) =>
    if d.digits = 0 || (low ≤ power && power < high) then
      positionalText style.keepsFraction digits power
    else scientific digits power
  | none => positionalText style.keepsFraction digits power

end FloatStyle

namespace Binary

variable {f : Format}

/-- A number in a given style. What is no number is `NaN` whatever its sign. -/
def text (style : FloatStyle) (x : Binary f) : String :=
  let sign (negative : Bool) : String := if negative then "-" else ""
  match x.value with
  | .nan _ => "NaN"
  | .infinite negative => sign negative ++ "inf"
  | .finite negative m e =>
    let d : Decimal := if m = 0 then ⟨0, 0⟩ else shortestDecimal f m e
    sign negative ++ String.ofList (style.decimal d)

/-- The bits in hexadecimal, four to a digit. -/
def hex (x : Binary f) : String :=
  let digits := Nat.toDigits 16 x.bits.toNat
  String.ofList (List.replicate (f.width / 4 - digits.length) '0' ++ digits)

end Binary

end Storyline
