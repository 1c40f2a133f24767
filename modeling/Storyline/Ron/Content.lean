import Storyline.Ron.Token

/-!
# What stands between parentheses

Behind an opening parenthesis there are named fields, or items without names. Which of them it is
shows the first name: a colon follows the name of a field.

A file may let the parentheses of `Some` stand for those of the value in it as well. Then `Some(a:
1)` is short for `Some((a: 1))`, and `Some(1, 2)` for `Some((1, 2))`, while `Some(1)` and
`Some(1,)` hold a value on its own. `Content.unwrapped?` tells these apart by looking ahead for
the comma that ends the first item.
-/

namespace Storyline.Ron

/-- What stands between parentheses. -/
inductive Content where
  /-- Fields, each with its name. -/
  | fields
  /-- Items without names. -/
  | items
  /-- A single value. -/
  | value
  deriving DecidableEq

/-- Whether what follows an opening parenthesis is a list of named fields. -/
def hasNamedFields (cs : List Char) : Bool :=
  match (skipBlanks cs).bind name? with
  | some (_, rest) => (skipBlanks rest).any (·.head? = some ':')
  | none => false

/-- Skips a character, a string and a string of bytes, as far as they stand here one behind the
other. -/
def skipQuoted (cs : List Char) : List Char :=
  let cs :=
    match cs with
    | '\'' :: rest => ((char? .character rest).map (·.2)).getD cs
    | _ => cs
  let cs := ((string? cs).map (·.2)).getD cs
  ((byteString? cs).map (·.2)).getD cs

namespace Content

/-- What the parentheses hold, seen from behind the comma after the first item. -/
def behindComma? (cs : List Char) : Option Content :=
  (skipBlanks cs).map fun cs ↦ if cs.head? = some ')' then value else items

/-- What the parentheses hold, seen from within the first item, where so many brackets are open;
it looks at `fuel` characters at most. -/
def lookAhead? : Nat → Nat → List Char → Option Content
  | 0, _, _ => none
  | fuel + 1, opened, cs => do
    match skipQuoted (← skipBlanks cs) with
    | [] => none
    | c :: cs =>
      if c = '(' || c = '[' || c = '{' then lookAhead? fuel (opened + 1) cs
      else if c = ')' || c = ']' || c = '}' then
        if opened = 0 then pure value else lookAhead? fuel (opened - 1) cs
      else if c = ',' && opened = 0 then behindComma? cs
      else lookAhead? fuel opened cs

/-- What the parentheses of `Some` hold, where they may stand for those of the value as well. -/
def unwrapped? (cs : List Char) : Option Content := do
  let cs ← skipBlanks cs
  if cs.head? = some ')' then pure items
  else match name? cs with
    | none => lookAhead? (cs.length + 1) 0 cs
    | some (_, rest) =>
      match ← skipBlanks rest with
      | ':' :: _ => pure fields
      | ',' :: rest => behindComma? rest
      | rest => lookAhead? (rest.length + 1) 0 rest

end Content

end Storyline.Ron
