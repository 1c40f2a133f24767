/-!
# Blanks, comments and line ends in TOML

Blanks are spaces and tabs. A line ends in a line feed, with or without a carriage return before
it; a carriage return alone is an error. Comments run to the end of the line and hold no control
character but the tab.
-/

namespace Storyline.Toml

/-- Whether a character is a blank. -/
def isBlank (c : Char) : Bool := c = ' ' || c = '\t'

/-- Whether a character may stand in comments and literal strings: the tab, and whatever is no
control character. -/
def isVisible (c : Char) : Bool := c = '\t' || (0x20 ≤ c.toNat && c.toNat != 0x7F)

/-- Skips blanks. -/
def skipBlanks (cs : List Char) : List Char := cs.dropWhile isBlank

/-- Takes a line end off the front. -/
def newline? : List Char → Option (List Char)
  | '\n' :: cs => some cs
  | '\r' :: '\n' :: cs => some cs
  | _ => none

/-- Skips a comment up to the end of its line, if one stands there. -/
def skipComment (cs : List Char) : List Char :=
  match cs with
  | '#' :: rest => rest.dropWhile isVisible
  | _ => cs

/-- Takes the rest of a line: blanks, a comment, and the line end or the end of the file. -/
def endOfLine? (cs : List Char) : Option (List Char) :=
  match skipComment (skipBlanks cs) with
  | [] => some []
  | cs => newline? cs

/-- Skips blanks, comments and line ends in an array, inside of a comment or not. -/
def skipLines : Bool → List Char → Option (List Char)
  | _, [] => some []
  | _, '\r' :: '\n' :: cs => skipLines false cs
  | inComment, c :: cs =>
    if c = '\n' then skipLines false cs
    else if c = '\r' then none
    else if inComment then if isVisible c then skipLines true cs else none
    else if c = '#' then skipLines true cs
    else if isBlank c then skipLines false cs
    else some (c :: cs)

end Storyline.Toml
