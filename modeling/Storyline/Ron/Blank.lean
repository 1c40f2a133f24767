/-!
# Blanks and comments in RON

Between any two tokens there may be blanks, comments that run to the end of the line, and comments
between `/*` and `*/`, which nest. A slash that opens no comment, or a block that is never closed,
is an error.
-/

namespace Storyline.Ron

/-- Whether a character separates tokens. -/
def isBlank (c : Char) : Bool :=
  let n := c.toNat
  n == 0x20 || (0x09 ≤ n && n ≤ 0x0D) || n == 0x85 || n == 0x200E || n == 0x200F || n == 0x2028 ||
    n == 0x2029

/-- What lies between two tokens: nothing, a comment up to the end of the line, or a block of
comments that are open in each other. -/
inductive Gap where
  | between
  | line
  | block (depth : Nat)

/-- Skips the rest of a gap; what follows begins with a token. -/
def Gap.skip : Gap → List Char → Option (List Char)
  | .between, [] => some []
  | .between, '/' :: '/' :: cs => Gap.line.skip cs
  | .between, '/' :: '*' :: cs => (Gap.block 0).skip cs
  | .between, c :: cs =>
    if isBlank c then Gap.between.skip cs else if c = '/' then none else some (c :: cs)
  | .line, [] => some []
  | .line, c :: cs => if c = '\n' then Gap.between.skip cs else Gap.line.skip cs
  | .block _, [] => none
  | .block n, '/' :: '*' :: cs => (Gap.block (n + 1)).skip cs
  | .block 0, '*' :: '/' :: cs => Gap.between.skip cs
  | .block (n + 1), '*' :: '/' :: cs => (Gap.block n).skip cs
  | .block n, _ :: cs => (Gap.block n).skip cs

/-- Skips blanks and comments. -/
def skipBlanks (cs : List Char) : Option (List Char) := Gap.between.skip cs

end Storyline.Ron
