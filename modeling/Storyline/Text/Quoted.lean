import Storyline.Text.Printable

/-!
# Quoted texts

A quoted text shows every character in a form that can be read back: quotes and backslashes behind
a backslash, the usual line characters by their letters, and whatever cannot be seen on its own as
`\u` with the code point in braces. Log records quote keys and values with `quote`; saved files
use the same spellings and put a backslash before the single quote as well.
-/

namespace Storyline.Text

/-- A code point in braces behind `\u`, in the fewest hexadecimal digits. -/
def codeEscape (c : Char) : List Char :=
  '\\' :: 'u' :: '{' :: Nat.toDigits 16 c.toNat ++ ['}']

/-- A character as it stands between double quotes. -/
def escapeChar (c : Char) : List Char :=
  if c = Char.ofNat 0 then ['\\', '0']
  else if c = '\t' then ['\\', 't']
  else if c = '\r' then ['\\', 'r']
  else if c = '\n' then ['\\', 'n']
  else if c = '\\' || c = '"' then ['\\', c]
  else if isExtender c || !isPrintable c then codeEscape c
  else [c]

/-- A character as it stands between quotes of either kind. -/
def escapeAnyQuote (c : Char) : List Char := if c = '\'' then ['\\', c] else escapeChar c

/-- A text between double quotes. -/
def quote (s : String) : String :=
  "\"" ++ String.ofList (s.toList.flatMap escapeChar) ++ "\""

/-- A text between double quotes, single quotes escaped as well. -/
def quoteBoth (s : String) : String :=
  "\"" ++ String.ofList (s.toList.flatMap escapeAnyQuote) ++ "\""

end Storyline.Text
