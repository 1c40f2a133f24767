import Storyline.Text.Scan
import Storyline.Toml.Blank

/-!
# Strings and keys in TOML

Basic strings stand between double quotes and know escapes; literal strings stand between single
quotes and know none. Both have a form between three quotes that may run over several lines: a
line end right behind the opening quotes does not count, every other is a line feed, and one or
two quotes may stand inside, also directly before the closing ones. In the basic form a backslash
at the end of a line removes everything up to the next character that is neither blank nor line
end.
-/

namespace Storyline.Toml

open Text (hexDigit? scalar?)

/-- Where the reading of a basic string stands. -/
inductive BasicState where
  /-- Between characters. -/
  | plain
  /-- Behind a backslash. -/
  | backslash
  /-- Behind a backslash and blanks, before the end of the line. -/
  | lineBreak
  /-- Behind a backslash and the end of its line. -/
  | skipped
  /-- Behind `\u` or `\U`, with so many digits to come, and the value of those before. -/
  | code (missing value : Nat)

/-- The character that a letter behind a backslash stands for. -/
def simpleEscape? : Char → Option Char
  | 'b' => some (Char.ofNat 8)
  | 't' => some '\t'
  | 'n' => some '\n'
  | 'f' => some (Char.ofNat 12)
  | 'r' => some '\r'
  | '"' => some '"'
  | '\\' => some '\\'
  | _ => none

/-- Puts a character in front of what was read. -/
def consText (c : Char) : Option (List Char × List Char) → Option (List Char × List Char)
  | some (text, rest) => some (c :: text, rest)
  | none => none

/-- Takes closing quotes off the front, three of them, with up to two more that belong to the
string. -/
def closing? (quote : Char) : List Char → Option (List Char × List Char)
  | a :: b :: c :: cs =>
    if a = quote && b = quote && c = quote then
      match cs with
      | d :: e :: cs' =>
        if d = quote && e = quote then some ([quote, quote], cs')
        else if d = quote then some ([quote], e :: cs')
        else some ([], cs)
      | [d] => if d = quote then some ([quote], []) else some ([], [d])
      | [] => some ([], [])
    else none
  | _ => none

/-- Reads a basic string up to its closing quotes; `lines` says whether it may have several
lines. -/
def basicFrom (lines : Bool) : BasicState → List Char → Option (List Char × List Char)
  | _, [] => none
  | .plain, c :: cs =>
    if c = '"' then
      if lines then
        match closing? '"' (c :: cs) with
        | some closed => some closed
        | none => consText '"' (basicFrom lines .plain cs)
      else some ([], cs)
    else if c = '\\' then basicFrom lines .backslash cs
    else if isVisible c then consText c (basicFrom lines .plain cs)
    else if lines && c = '\n' then consText '\n' (basicFrom lines .plain cs)
    else if lines && c = '\r' && cs.head? = some '\n' then basicFrom lines .plain cs
    else none
  | .backslash, c :: cs =>
    if c = 'u' then basicFrom lines (.code 4 0) cs
    else if c = 'U' then basicFrom lines (.code 8 0) cs
    else match simpleEscape? c with
      | some d => consText d (basicFrom lines .plain cs)
      | none =>
        if lines && c = '\n' then basicFrom lines .skipped cs
        else if lines && (isBlank c || (c = '\r' && cs.head? = some '\n')) then
          basicFrom lines .lineBreak cs
        else none
  | .lineBreak, c :: cs =>
    if c = '\n' then basicFrom lines .skipped cs
    else if isBlank c || (c = '\r' && cs.head? = some '\n') then basicFrom lines .lineBreak cs
    else none
  | .skipped, c :: cs =>
    if isBlank c || c = '\n' || (c = '\r' && cs.head? = some '\n') then basicFrom lines .skipped cs
    else if c = '"' then
      match closing? '"' (c :: cs) with
      | some closed => some closed
      | none => consText '"' (basicFrom lines .plain cs)
    else if c = '\\' then basicFrom lines .backslash cs
    else if isVisible c then consText c (basicFrom lines .plain cs)
    else none
  | .code missing value, c :: cs =>
    match hexDigit? c with
    | none => none
    | some d =>
      let value := value * 16 + d
      if missing = 1 then
        match scalar? value with
        | some e => consText e (basicFrom lines .plain cs)
        | none => none
      else basicFrom lines (.code (missing - 1) value) cs

/-- Reads a literal string of several lines up to its closing quotes. -/
def literalLines : List Char → Option (List Char × List Char)
  | [] => none
  | c :: cs =>
    if c = '\'' then
      match closing? '\'' (c :: cs) with
      | some closed => some closed
      | none => consText '\'' (literalLines cs)
    else if isVisible c || c = '\n' then consText c (literalLines cs)
    else if c = '\r' && cs.head? = some '\n' then literalLines cs
    else none

/-- Reads a literal string of one line up to its closing quote. -/
def literalLine (cs : List Char) : Option (List Char × List Char) :=
  let text := cs.takeWhile fun c ↦ isVisible c && c != '\''
  match cs.drop text.length with
  | '\'' :: rest => some (text, rest)
  | _ => none

/-- Drops a line end at the front. -/
def dropNewline (cs : List Char) : List Char := (newline? cs).getD cs

/-- Reads a string of one line. -/
def lineString? : List Char → Option (String × List Char)
  | '"' :: cs => (basicFrom false .plain cs).map fun p ↦ (String.ofList p.1, p.2)
  | '\'' :: cs => (literalLine cs).map fun p ↦ (String.ofList p.1, p.2)
  | _ => none

/-- Reads a string of any form. -/
def string? : List Char → Option (String × List Char)
  | '"' :: '"' :: '"' :: cs =>
    (basicFrom true .plain (dropNewline cs)).map fun p ↦ (String.ofList p.1, p.2)
  | '\'' :: '\'' :: '\'' :: cs =>
    (literalLines (dropNewline cs)).map fun p ↦ (String.ofList p.1, p.2)
  | cs => lineString? cs

/-! ### Keys -/

/-- Whether a character may stand in a bare key. -/
def isBarePart (c : Char) : Bool := c.isAlphanum || c = '-' || c = '_'

/-- Reads one part of a key: a bare one, or a string of one line. -/
def keyPart? (cs : List Char) : Option (String × List Char) :=
  match cs with
  | '"' :: _ => lineString? cs
  | '\'' :: _ => lineString? cs
  | _ =>
    let word := cs.takeWhile isBarePart
    if word.isEmpty then none else some (String.ofList word, cs.drop word.length)

/-- Reads the parts of a key, separated by points with blanks around them, `fuel` of them at most.
The blanks behind the last part are skipped. -/
def keyParts : Nat → List Char → Option (List String × List Char)
  | 0, _ => none
  | fuel + 1, cs => do
    let (part, cs) ← keyPart? (skipBlanks cs)
    match skipBlanks cs with
    | '.' :: cs =>
      let (parts, cs) ← keyParts fuel cs
      pure (part :: parts, cs)
    | cs => pure ([part], cs)

/-- How deep values and keys may be nested. -/
def nestingLimit : Nat := 79

/-- Reads a key: the names of the tables that it leads through, and the name in the last of
them. -/
def key? (cs : List Char) : Option (List String × String × List Char) := do
  let (parts, cs) ← keyParts nestingLimit cs
  let name ← parts.getLast?
  pure (parts.dropLast, name, cs)

end Storyline.Toml
