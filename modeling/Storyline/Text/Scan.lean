/-!
# Taking tokens off the front of a text

What the readers of all file formats share: a given token, hexadecimal digits, the digits of a
number in some base, and the characters that code points stand for.
-/

namespace Storyline.Text

/-- Takes a given token off the front. -/
def literal? (token : List Char) (cs : List Char) : Option (List Char) :=
  if token.isPrefixOf cs then some (cs.drop token.length) else none

/-- The value of a hexadecimal digit. -/
def hexDigit? (c : Char) : Option Nat :=
  if c.isDigit then some (c.toNat - '0'.toNat)
  else if 'a' ≤ c && c ≤ 'f' then some (c.toNat - 'a'.toNat + 10)
  else if 'A' ≤ c && c ≤ 'F' then some (c.toNat - 'A'.toNat + 10)
  else none

/-- The value of digits in a base of at most sixteen, underscores skipped. -/
def digitsIn? (base : Nat) (cs : List Char) : Option Nat :=
  cs.foldlM (fun n c ↦
    if c = '_' then some n
    else match hexDigit? c with
      | some d => if d < base then some (n * base + d) else none
      | none => none) 0

/-- The character of a code point; surrogates and what exceeds the code space stand for none. -/
def scalar? (n : Nat) : Option Char := if n.isValidChar then some (Char.ofNat n) else none

end Storyline.Text
