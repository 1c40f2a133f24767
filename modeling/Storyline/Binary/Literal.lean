import Storyline.Binary.Rounding

/-!
# Reading binary numbers

A decimal literal is an optional sign, digits with at most one point among or around them, and an
optional power of ten; at least one digit has to stand before the power. The words `inf`,
`infinity` and `nan` are read in any ASCII case. The value is rounded once, from the decimal text
to the format.
-/

namespace Storyline

/-- A decimal literal in its parts: the number `digits · 10 ^ exponent`, negated where
`negative`. -/
structure DecimalLiteral where
  /-- Whether a minus sign stands in front. -/
  negative : Bool
  /-- The digits, read as a whole number. -/
  digits : Nat
  /-- The power of ten that they count. -/
  exponent : Int

namespace DecimalLiteral

/-- A sign in front of a text, and what follows it. -/
def takeSign : List Char → Bool × List Char
  | '-' :: cs => (true, cs)
  | '+' :: cs => (false, cs)
  | cs => (false, cs)

/-- The value of a list of digits. -/
def natOf (ds : List Char) : Nat := ds.foldl (fun n c ↦ n * 10 + (c.toNat - '0'.toNat)) 0

/-- The power of ten behind the digits: none at all, or `e` and a whole number. -/
def readPower? : List Char → Option Int
  | [] => some 0
  | c :: cs =>
    if c = 'e' || c = 'E' then
      let (negative, ds) := takeSign cs
      if !ds.isEmpty && ds.all Char.isDigit then
        some (if negative then -(natOf ds : Int) else natOf ds)
      else none
    else none

/-- Reads a decimal literal. -/
def read? (cs : List Char) : Option DecimalLiteral :=
  let (negative, cs) := takeSign cs
  let whole := cs.takeWhile Char.isDigit
  let cs := cs.drop whole.length
  let (fraction, cs) := match cs with
    | '.' :: cs =>
      let fraction := cs.takeWhile Char.isDigit
      (fraction, cs.drop fraction.length)
    | _ => ([], cs)
  if whole.isEmpty && fraction.isEmpty then none
  else (readPower? cs).map fun power ↦
    ⟨negative, natOf (whole ++ fraction), power - fraction.length⟩

/-- The number of a format that is nearest to a literal. -/
def toBinary {f : Format} (l : DecimalLiteral) : Binary f :=
  Binary.ofDecimal l.negative l.digits l.exponent

end DecimalLiteral

/-- The number of a format that a text stands for. -/
def Binary.read? {f : Format} (cs : List Char) : Option (Binary f) :=
  let (negative, word) := DecimalLiteral.takeSign cs
  let word := String.ofList (word.map Char.toLower)
  if word = "inf" || word = "infinity" then some (Binary.infinity negative)
  else if word = "nan" then some (Binary.nan negative)
  else (DecimalLiteral.read? cs).map DecimalLiteral.toBinary

end Storyline
