/-!
# Splitting a text at a mark

The two ways in which the small languages take an expression apart: at the first place where a
token stands, and at the last place where a character stands. Neither part contains the mark.
-/

namespace Storyline.Text

/-- The parts before and after the first occurrence of a token. -/
def splitAtFirst? (token : List Char) : List Char → Option (List Char × List Char)
  | [] => if token.isEmpty then some ([], []) else none
  | c :: cs =>
    if token.isPrefixOf (c :: cs) then some ([], (c :: cs).drop token.length)
    else (splitAtFirst? token cs).map fun p ↦ (c :: p.1, p.2)

/-- The parts before and after the last occurrence of a character. -/
def splitAtLast? (mark : Char) : List Char → Option (List Char × List Char)
  | [] => none
  | c :: cs =>
    match splitAtLast? mark cs with
    | some (before, after) => some (c :: before, after)
    | none => if c = mark then some ([], cs) else none

end Storyline.Text
