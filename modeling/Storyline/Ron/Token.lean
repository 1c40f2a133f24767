import Storyline.Binary.Literal
import Storyline.Numeral
import Storyline.Ron.Blank
import Storyline.Text.Identifier
import Storyline.Text.Scan
import Storyline.Text.Split

/-!
# Tokens of RON

Identifiers, quoted and raw strings, characters, whole numbers and numbers. Each function takes
its token off the front of a text and gives the rest; none of them skips blanks.

A whole number is written in base 10, or behind `0b`, `0o`, `0x` in base 2, 8, 16. Underscores may
stand between digits. A type may follow a number; it has to be the one that is wanted.
-/

namespace Storyline.Ron

open Text (literal? hexDigit? digitsIn? scalar?)

/-! ### Identifiers -/

/-- Whether a text goes on with a character of an identifier. -/
def continuesName (cs : List Char) : Bool := cs.head?.any Text.isIdentifierPart

/-- Takes a word off the front, if the identifier there ends with it. -/
def keyword? (word : String) (cs : List Char) : Option (List Char) :=
  (literal? word.toList cs).filter fun rest ↦ !continuesName rest

/-- Whether a character may stand in a raw identifier. -/
def isRawPart (c : Char) : Bool := c = '.' || c = '+' || c = '-' || Text.isIdentifierPart c

/-- The openings of quoted and raw texts that begin with a letter. -/
def quoteOpenings : List String := ["b'", "b\"", "br\"", "br#", "r\"", "r#\"", "r##"]

/-- Takes an identifier off the front: a plain one, or a raw one behind `r#`, which may also
contain points and signs. A plain one may not be followed by them, and none may open a quoted
text. -/
def name? (cs : List Char) : Option (String × List Char) :=
  if quoteOpenings.any (·.toList.isPrefixOf cs) then none
  else match literal? ['r', '#'] cs with
    | some rest =>
      let word := rest.takeWhile isRawPart
      if word.isEmpty then none else some (String.ofList word, rest.drop word.length)
    | none =>
      let word := cs.takeWhile Text.isIdentifierPart
      let rest := cs.drop word.length
      if cs.head?.any (fun c ↦ c = '_' || Text.isIdentifierStart c) &&
          !rest.head?.any isRawPart then
        some (String.ofList word, rest)
      else none

/-! ### Strings -/

/-- What stands between quotes. -/
inductive Quoting where
  /-- A text. Bytes behind `\x` may be the UTF-8 form of a character together. -/
  | text
  /-- A single character. -/
  | character
  /-- A single byte: an ASCII character, or an escape that names no code point. -/
  | byte
  /-- Bytes. -/
  | bytes
  deriving DecidableEq

/-- Where the reading of a quoted text stands. -/
inductive QuoteState where
  /-- Between characters. -/
  | plain
  /-- Behind a backslash. -/
  | backslash
  /-- Behind `\x`, before its digits; `before` holds the bytes of the same character before it. -/
  | byte (before : List Nat)
  /-- Behind `\x` and one digit. -/
  | byteDigit (before : List Nat) (high : Nat)
  /-- Behind some bytes of a character, of which there must be more. -/
  | moreBytes (before : List Nat)
  /-- Behind some bytes of a character and a backslash. -/
  | moreMark (before : List Nat)
  /-- Behind `\u`. -/
  | code
  /-- Behind the brace of `\u` and so many digits with this value. -/
  | codeDigits (count value : Nat)

/-- The character that a letter behind a backslash stands for. -/
def simpleEscape? : Char → Option Char
  | 'n' => some '\n'
  | 'r' => some '\r'
  | 't' => some '\t'
  | '0' => some (Char.ofNat 0)
  | '\\' => some '\\'
  | '"' => some '"'
  | '\'' => some '\''
  | _ => none

/-- The code point of a UTF-8 form, of which `value` is what the bytes so far say. The other bytes
have to go on with it, and it has to be `least` at least. -/
def continuedScalar? (least : Nat) : Nat → List Nat → Option Char
  | value, [] => if least ≤ value then scalar? value else none
  | value, b :: bs =>
    if 0x80 ≤ b && b < 0xC0 then continuedScalar? least (value * 0x40 + (b - 0x80)) bs else none

/-- The character of which some bytes are the UTF-8 form. -/
def utf8Char? : List Nat → Option Char
  | [a] => if a < 0x80 then scalar? a else none
  | [a, b] => if 0xC0 ≤ a && a < 0xE0 then continuedScalar? 0x80 (a - 0xC0) [b] else none
  | [a, b, c] => if 0xE0 ≤ a && a < 0xF0 then continuedScalar? 0x800 (a - 0xE0) [b, c] else none
  | [a, b, c, d] =>
    if 0xF0 ≤ a && a < 0xF8 then continuedScalar? 0x10000 (a - 0xF0) [b, c, d] else none
  | _ => none

/-- What escaped bytes stand for: the character that they encode, or in a string of bytes the one
byte itself. -/
def Quoting.escaped? : Quoting → List Nat → Option Char
  | .byte, [b] => scalar? b
  | .bytes, [b] => scalar? b
  | _, bs => utf8Char? bs

/-- Whether a character may stand between the quotes as it is. -/
def Quoting.allows (form : Quoting) (c : Char) : Bool := form != .byte || c.toNat < 0x80

/-- Whether bytes that encode no character may go on. -/
def Quoting.mayContinue (form : Quoting) (bs : List Nat) : Bool := form = .text && bs.length < 4

/-- Reads a text up to the closing quote. -/
def quotedFrom (quote : Char) (form : Quoting) :
    QuoteState → List Char → Option (List Char × List Char)
  | _, [] => none
  | .plain, c :: cs =>
    if c = quote then some ([], cs)
    else if c = '\\' then quotedFrom quote form .backslash cs
    else if form.allows c then (quotedFrom quote form .plain cs).map fun p ↦ (c :: p.1, p.2)
    else none
  | .backslash, c :: cs =>
    if c = 'x' then quotedFrom quote form (.byte []) cs
    else if c = 'u' then if form = .byte then none else quotedFrom quote form .code cs
    else match simpleEscape? c with
      | some d => (quotedFrom quote form .plain cs).map fun p ↦ (d :: p.1, p.2)
      | none => none
  | .byte before, c :: cs =>
    match hexDigit? c with
    | some high => quotedFrom quote form (.byteDigit before high) cs
    | none => none
  | .byteDigit before high, c :: cs =>
    match hexDigit? c with
    | some low =>
      let bytes := before ++ [high * 16 + low]
      match form.escaped? bytes with
      | some d => (quotedFrom quote form .plain cs).map fun p ↦ (d :: p.1, p.2)
      | none => if form.mayContinue bytes then quotedFrom quote form (.moreBytes bytes) cs else none
    | none => none
  | .moreBytes before, c :: cs =>
    if c = '\\' then quotedFrom quote form (.moreMark before) cs else none
  | .moreMark before, c :: cs =>
    if c = 'x' then quotedFrom quote form (.byte before) cs else none
  | .code, c :: cs => if c = '{' then quotedFrom quote form (.codeDigits 0 0) cs else none
  | .codeDigits count value, c :: cs =>
    if c = '}' then
      match if count = 0 then none else scalar? value with
      | some d => (quotedFrom quote form .plain cs).map fun p ↦ (d :: p.1, p.2)
      | none => none
    else if count < 6 then
      match hexDigit? c with
      | some d => quotedFrom quote form (.codeDigits (count + 1) (value * 16 + d)) cs
      | none => none
    else none

/-- Reads the rest of a raw string behind its `r`: hashes, a quote, and everything up to the next
quote with as many hashes. -/
def raw? (cs : List Char) : Option (List Char × List Char) :=
  let hashes := cs.takeWhile (· = '#')
  match cs.drop hashes.length with
  | '"' :: cs => Text.splitAtFirst? ('"' :: hashes) cs
  | _ => none

/-- Reads a string, quoted or raw. -/
def string? : List Char → Option (String × List Char)
  | '"' :: cs => (quotedFrom '"' .text .plain cs).map fun p ↦ (String.ofList p.1, p.2)
  | 'r' :: cs => (raw? cs).map fun p ↦ (String.ofList p.1, p.2)
  | _ => none

/-- Reads a string of bytes, quoted or raw. -/
def byteString? : List Char → Option (List Char × List Char)
  | 'b' :: '"' :: cs => quotedFrom '"' .bytes .plain cs
  | 'b' :: 'r' :: cs => raw? cs
  | _ => none

/-- Reads a single character and the quote behind it. -/
def char? (form : Quoting) : List Char → Option (Char × List Char)
  | '\'' :: '\'' :: cs => some ('\'', cs)
  | cs =>
    match quotedFrom '\'' form .plain cs with
    | some ([c], rest) => some (c, rest)
    | _ => none

/-! ### Whole numbers -/

/-- Whether a character may stand in the digits of a whole number. -/
def isIntegerPart (c : Char) : Bool := (hexDigit? c).isSome || c = '_'

/-- The base of a whole number, and its text behind the mark of the base. -/
def base : List Char → Nat × List Char
  | '0' :: 'b' :: cs => (2, cs)
  | '0' :: 'o' :: cs => (8, cs)
  | '0' :: 'x' :: cs => (16, cs)
  | cs => (10, cs)

/-- Takes the digits of a whole number off the front. -/
def natural? (cs : List Char) : Option (Nat × List Char) :=
  let (b, cs) := base cs
  let digits := cs.takeWhile isIntegerPart
  if digits.isEmpty || digits.head? = some '_' then none
  else (digitsIn? b digits).map (·, cs.drop digits.length)

/-- A type of whole numbers. -/
structure IntegerType where
  /-- How it is written. -/
  word : String
  /-- The least number. -/
  least : Int
  /-- The greatest number. -/
  greatest : Int

/-- The signed type of so many bits. -/
def IntegerType.signed (word : String) (bits : Nat) : IntegerType :=
  ⟨word, -Nat.pow 2 (bits - 1), Nat.pow 2 (bits - 1) - 1⟩

/-- The unsigned type of so many bits. -/
def IntegerType.unsigned (word : String) (bits : Nat) : IntegerType := ⟨word, 0, Nat.pow 2 bits - 1⟩

/-- The types that may follow a whole number. -/
def integerTypes : List IntegerType :=
  [.signed "i8" 8, .signed "i16" 16, .signed "i32" 32, .signed "i64" 64,
    .unsigned "u8" 8, .unsigned "u16" 16, .unsigned "u32" 32, .unsigned "u64" 64]

/-- Takes the name of a type off the front, if one stands there. -/
def integerType? (cs : List Char) : Option (IntegerType × List Char) :=
  integerTypes.findSome? fun t ↦ (keyword? t.word cs).map (t, ·)

/-- Takes a whole number off the front, with the type behind it if there is one. In base 8 and 16
no type may follow. -/
def integer? (cs : List Char) : Option (Int × Option IntegerType × List Char) :=
  let (negative, digits) := DecimalLiteral.takeSign cs
  match natural? digits with
  | none => none
  | some (n, rest) =>
    let i : Int := if negative then -n else n
    let b := (base digits).1
    match if b = 8 || b = 16 then none else integerType? rest with
    | some (t, rest) => some (i, some t, rest)
    | none => some (i, none, rest)

/-- Reads a 32-bit integer. -/
def int32? (cs : List Char) : Option (Int32 × List Char) :=
  match integer? cs with
  | some (i, t, rest) =>
    if t.all (·.word = "i32") then (Numeral.int32? i).map (·, rest) else none
  | none => none

/-! ### Numbers -/

/-- Whether a character may stand in a number. -/
def isFloatPart (c : Char) : Bool :=
  c.isDigit || c = 'e' || c = 'E' || c = '.' || c = '+' || c = '-' || c = '_'

/-- A number without its underscores. They may only follow a digit, an exponent mark or each
other; signs change nothing. -/
def dropUnderscores : Bool → List Char → Option (List Char)
  | _, [] => some []
  | allowed, c :: cs =>
    if c = '_' then if allowed then dropUnderscores allowed cs else none
    else
      let allowed := if c = '.' then false else if c = '+' || c = '-' then allowed else true
      (dropUnderscores allowed cs).map (c :: ·)

/-- The words for numbers without digits. -/
def floatWords : List String := ["inf", "+inf", "-inf", "NaN", "+NaN", "-NaN"]

/-- Takes a number off the front: its text without underscores, and the rest, where a type may
follow. -/
def floatText? (cs : List Char) : Option (List Char × List Char) :=
  let word := floatWords.findSome? fun w ↦
    (literal? w.toList cs).bind fun rest ↦
      if continuesName rest && (keyword? "f32" rest).isNone && (keyword? "f64" rest).isNone then
        none
      else some (w.toList, rest)
  match word with
  | some found => some found
  | none =>
    let text := cs.takeWhile isFloatPart
    if text.isEmpty then none
    else (dropUnderscores false text).map (·, cs.drop text.length)

/-- Reads a number of a format; if a type follows, it has to be `typeWord`. -/
def float? {f : Format} (typeWord : String) (cs : List Char) : Option (Binary f × List Char) :=
  match floatText? cs with
  | none => none
  | some (text, rest) =>
    (Binary.read? text).map fun x ↦ (x, (keyword? typeWord rest).getD rest)

/-- Skips a number of any type. -/
def skipNumber? (cs : List Char) : Option (List Char) :=
  let digits := (DecimalLiteral.takeSign cs).2
  let float : Option (List Char) :=
    match floatText? cs with
    | some (text, rest) =>
      (Binary.read? (f := .double) text).map fun _ ↦
        ((keyword? "f32" rest).orElse fun _ ↦ keyword? "f64" rest).getD rest
    | none => none
  if (digits.takeWhile isIntegerPart).length < (digits.takeWhile isFloatPart).length then float
  else match integer? cs with
    | some (i, some t, rest) => if t.least ≤ i && i ≤ t.greatest then some rest else none
    | some (i, none, rest) =>
      if -9223372036854775808 ≤ i && i < 18446744073709551616 then some rest else float
    | none => float

end Storyline.Ron
