/-!
# Blank characters

The characters that the engine ignores at both ends of a key, an expression or a command: those
with the Unicode property `White_Space`. Zero-width characters such as U+200B are not among them.

Everything here works on `List Char`; `String` forms stand at the end.
-/

namespace Storyline.Text

/-- Whether a character has the Unicode property `White_Space`. -/
def isBlank (c : Char) : Bool :=
  let n := c.toNat
  (0x09 ≤ n && n ≤ 0x0D) || n == 0x20 || n == 0x85 || n == 0xA0 || n == 0x1680 ||
    (0x2000 ≤ n && n ≤ 0x200A) || n == 0x2028 || n == 0x2029 || n == 0x202F || n == 0x205F ||
    n == 0x3000

/-- A list without the blanks at its front. -/
def trimStart (cs : List Char) : List Char := cs.dropWhile isBlank

/-- A list without the blanks at its back: what remains once the longest run of blanks at the end
has been removed. -/
def trimEnd : List Char → List Char
  | [] => []
  | c :: cs =>
    match trimEnd cs with
    | [] => if isBlank c then [] else [c]
    | d :: ds => c :: d :: ds

/-- A list without the blanks at both ends. -/
def trimChars (cs : List Char) : List Char := trimEnd (trimStart cs)

/-- A text without the blanks at both ends. -/
def trim (s : String) : String := String.ofList (trimChars s.toList)

/-- Whether a text holds nothing but blanks. -/
def isBlankText (s : String) : Bool := s.toList.all isBlank

/-- Splits a text at its first blank; the second part is empty where there is none. The blank
itself belongs to neither part. -/
def splitAtBlank (s : String) : String × String :=
  let cs := s.toList
  let word := cs.takeWhile (!isBlank ·)
  (String.ofList word, String.ofList (cs.drop (word.length + 1)))

end Storyline.Text
