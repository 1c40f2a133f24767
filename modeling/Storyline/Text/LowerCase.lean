import Storyline.Text.LowerCase.Table
import Storyline.Text.Cased

/-!
# Lower case

The full lower-case mapping of Unicode, without the rules of particular languages: single
characters move by the table, U+0130 becomes two characters, and the Greek capital sigma depends
on its place. It becomes the final form at the end of a word, that is where a cased letter stands
before it and none after it, case-ignorable characters aside.
-/

namespace Storyline.Text

/-- The lower-case form of a character on its own. -/
def lowerChar (c : Char) : List Char :=
  if c.toNat = 0x130 then ['i', Char.ofNat 0x307] else [Char.ofNat (shiftBy lowerRuns c.toNat)]

/-- Whether the first character that is not case-ignorable is a cased letter. -/
def reachesCased (cs : List Char) : Bool :=
  match cs.dropWhile isCaseIgnorable with
  | [] => false
  | c :: _ => isCased c

/-- Maps the rest of a text; `before` holds the characters already passed, the nearest first. -/
def lowerFrom (before : List Char) : List Char → List Char
  | [] => []
  | c :: cs =>
    (if c = 'Σ' then
      if reachesCased before && !reachesCased cs then ['ς'] else ['σ']
    else lowerChar c) ++ lowerFrom (c :: before) cs

/-- The lower-case form of a list of characters. -/
def lowerChars (cs : List Char) : List Char := lowerFrom [] cs

/-- The lower-case form of a text. -/
def lower (s : String) : String := String.ofList (lowerChars s.toList)

end Storyline.Text
