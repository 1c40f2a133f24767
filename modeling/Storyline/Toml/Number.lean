import Storyline.Binary.Literal
import Storyline.Numeral
import Storyline.Text.Scan

/-!
# Numbers and dates in TOML

Whole numbers have 64 bits, and are written in base 10 without leading zeros, or in base 16, 8 or
2 behind `0x`, `0o`, `0b` without a sign. A number with a fraction or an exponent is rounded to 64
bits; one that exceeds them is refused, except below zero. An underscore may stand between two
digits.

Dates and times are read to tell them from numbers; what remains of one is its text in the usual
form.
-/

namespace Storyline.Toml

open Text (digitsIn? hexDigit? literal?)

/-! ### Digits -/

/-- Takes digits off the front, with single underscores between them. What a digit is says
`isDigit`, and `behind` whether one stands right in front. -/
def digitsFrom (isDigit : Char → Bool) : Bool → List Char → Option (List Char × List Char)
  | behind, [] => if behind then some ([], []) else none
  | behind, c :: cs =>
    if isDigit c then (digitsFrom isDigit true cs).map fun p ↦ (c :: p.1, p.2)
    else if behind then if c = '_' then digitsFrom isDigit false cs else some ([], c :: cs)
    else none

/-- Takes digits off the front, at least one. -/
def digits? (isDigit : Char → Bool) (cs : List Char) : Option (List Char × List Char) :=
  digitsFrom isDigit false cs

/-- Takes a sign off the front, where there is one. -/
def sign (cs : List Char) : List Char × List Char :=
  match cs with
  | '+' :: rest => (['+'], rest)
  | '-' :: rest => (['-'], rest)
  | _ => ([], cs)

/-- Takes a whole number in base 10 off the front, as the text of its sign and digits. A zero ends
the number. -/
def decimalText? (cs : List Char) : Option (List Char × List Char) :=
  let (s, rest) := sign cs
  match rest with
  | '0' :: rest => some (s ++ ['0'], rest)
  | _ => (digits? Char.isDigit rest).map fun p ↦ (s ++ p.1, p.2)

/-! ### Whole numbers -/

/-- A whole number, if it fits in 64 bits. -/
def int64? (i : Int) : Option Int :=
  if -9223372036854775808 ≤ i && i < 9223372036854775808 then some i else none

/-- Reads the digits behind the mark of a base. -/
def inBase? (base : Nat) (cs : List Char) : Option (Int × List Char) := do
  let (text, rest) ← digits? (fun c ↦ (hexDigit? c).any (· < base)) cs
  let value ← digitsIn? base text
  let i ← int64? value
  pure (i, rest)

/-- Reads a whole number. -/
def integer? : List Char → Option (Int × List Char)
  | '0' :: 'x' :: cs => inBase? 16 cs
  | '0' :: 'o' :: cs => inBase? 8 cs
  | '0' :: 'b' :: cs => inBase? 2 cs
  | cs => do
    let (text, rest) ← decimalText? cs
    let value ← Numeral.integer? text
    let i ← int64? value
    pure (i, rest)

/-! ### Numbers -/

/-- Takes a fraction off the front, as its point and digits. -/
def fraction? : List Char → Option (List Char × List Char)
  | '.' :: cs => (digits? Char.isDigit cs).map fun p ↦ ('.' :: p.1, p.2)
  | _ => none

/-- Takes an exponent off the front, as its mark, sign and digits. -/
def exponent? : List Char → Option (List Char × List Char)
  | [] => none
  | c :: cs =>
    if c = 'e' || c = 'E' then
      let (s, cs) := sign cs
      (digits? Char.isDigit cs).map fun p ↦ ('e' :: s ++ p.1, p.2)
    else none

/-- Whether an exponent begins here. -/
def hasExponent (cs : List Char) : Bool := cs.head?.any fun c ↦ c = 'e' || c = 'E'

/-- Takes a number with a fraction, an exponent or both off the front, as its text. -/
def floatText? (cs : List Char) : Option (List Char × List Char) := do
  let (whole, cs) ← decimalText? cs
  if hasExponent cs then
    let (power, cs) ← exponent? cs
    pure (whole ++ power, cs)
  else
    let (fraction, cs) ← fraction? cs
    if hasExponent cs then
      let (power, cs) ← exponent? cs
      pure (whole ++ fraction ++ power, cs)
    else pure (whole ++ fraction, cs)

/-- Reads `inf` or `nan` behind an optional sign. -/
def special? (cs : List Char) : Option (Binary64 × List Char) :=
  let (s, rest) := sign cs
  let negative := s = ['-']
  match literal? ['i', 'n', 'f'] rest with
  | some rest => some (.infinity negative, rest)
  | none => (literal? ['n', 'a', 'n'] rest).map (.nan negative, ·)

/-- Reads a number. -/
def float? (cs : List Char) : Option (Binary64 × List Char) :=
  match floatText? cs with
  | some (text, rest) =>
    match (Binary.read? text : Option Binary64) with
    | some x => if x = .infinity false then none else some (x, rest)
    | none => none
  | none => special? cs

/-! ### Dates and times -/

/-- Takes a number of exactly so many digits off the front, if it lies between two bounds. -/
def fixedDigits? (count least greatest : Nat) (cs : List Char) : Option (Nat × List Char) :=
  let text := cs.take count
  if text.length = count && text.all Char.isDigit then
    let n := DecimalLiteral.natOf text
    if least ≤ n && n ≤ greatest then some (n, cs.drop count) else none
  else none

/-- The number of days of a month. -/
def daysOf (year month : Nat) : Nat :=
  if month = 2 then if year % 4 = 0 && (year % 100 ≠ 0 || year % 400 = 0) then 29 else 28
  else if month = 4 || month = 6 || month = 9 || month = 11 then 30
  else 31

/-- Numbers of two digits with a mark between them. -/
def joined (mark : Char) (parts : List Nat) : List Char :=
  (parts.map (Numeral.padded 2)).intersperse [mark] |>.flatten

/-- Reads a date. -/
def date? (cs : List Char) : Option (List Char × List Char) := do
  let (year, cs) ← fixedDigits? 4 0 9999 cs
  let cs ← literal? ['-'] cs
  let (month, cs) ← fixedDigits? 2 1 12 cs
  let cs ← literal? ['-'] cs
  let (day, cs) ← fixedDigits? 2 1 31 cs
  if day ≤ daysOf year month then
    pure (Numeral.padded 4 year ++ '-' :: joined '-' [month, day], cs)
  else none

/-- The digits of a fraction of a second, at most nine of them, without zeros at the end. -/
def secondFraction (digits : List Char) : List Char :=
  let kept := ((digits.take 9).reverse.dropWhile (· = '0')).reverse
  if kept.isEmpty then [] else '.' :: kept

/-- Reads a time of day. -/
def time? (cs : List Char) : Option (List Char × List Char) := do
  let (hour, cs) ← fixedDigits? 2 0 23 cs
  let cs ← literal? [':'] cs
  let (minute, cs) ← fixedDigits? 2 0 59 cs
  let cs ← literal? [':'] cs
  let (second, cs) ← fixedDigits? 2 0 60 cs
  let clock := joined ':' [hour, minute, second]
  match cs with
  | '.' :: rest =>
    let digits := rest.takeWhile Char.isDigit
    if digits.isEmpty then pure (clock, cs)
    else pure (clock ++ secondFraction digits, rest.drop digits.length)
  | _ => pure (clock, cs)

/-- Reads the distance from universal time. There is no negative zero. -/
def offset? : List Char → Option (List Char × List Char)
  | [] => none
  | c :: cs =>
    if c = 'Z' || c = 'z' then some (['Z'], cs)
    else if c = '+' || c = '-' then do
      let (hour, cs) ← fixedDigits? 2 0 23 cs
      let cs ← literal? [':'] cs
      let (minute, cs) ← fixedDigits? 2 0 59 cs
      let s := if hour = 0 && minute = 0 then '+' else c
      pure (s :: joined ':' [hour, minute], cs)
    else none

/-- Reads a time of day, and the distance from universal time where it is given. -/
def fullTime? (cs : List Char) : Option (List Char × List Char) :=
  (time? cs).map fun (clock, cs) ↦
    match offset? cs with
    | some (offset, cs) => (clock ++ offset, cs)
    | none => (clock, cs)

/-- Reads a date, a time of day, or both. -/
def datetime? (cs : List Char) : Option (String × List Char) :=
  match date? cs with
  | some (date, rest) =>
    let delimited := rest.head?.any fun c ↦ c = 'T' || c = 't' || c = ' '
    match if delimited then fullTime? (rest.drop 1) else none with
    | some (time, rest) => some (String.ofList (date ++ 'T' :: time), rest)
    | none => some (String.ofList date, rest)
  | none => (time? cs).map fun p ↦ (String.ofList p.1, p.2)

end Storyline.Toml
