import Storyline.Ron.Content

/-!
# Values that nobody asks for

A field that a record does not know is skipped, whatever its value. `skipValue` takes any value
off the front of a text. Values may be nested; `depth` says how many levels may still be opened,
where a list or a record opens one and each of its elements another.
-/

namespace Storyline.Ron

open Text (literal?)

/-- What the head of a file switches on. -/
structure Extensions where
  /-- An optional value may stand without `Some`. -/
  implicitSome : Bool := false
  /-- Records have to be named. -/
  explicitNames : Bool := false
  /-- The parentheses of `Some` may stand for those of the value in it. -/
  unwrapsOptions : Bool := false

/-- Skips a comma, if one follows, with the blanks around it; the answer says whether one did. -/
def comma? (cs : List Char) : Option (Bool × List Char) := do
  let cs ← skipBlanks cs
  match cs with
  | ',' :: cs => pure (true, ← skipBlanks cs)
  | _ => pure (false, cs)

/-- Reads elements separated by commas up to the closing character, which remains; a comma may
follow the last. At most `fuel` elements are read. -/
def elements {α : Type} (close : Char) (element : List Char → Option (α × List Char)) :
    Nat → Bool → List Char → Option (List α × List Char)
  | 0, _, _ => none
  | fuel + 1, hadComma, cs => do
    let cs ← skipBlanks cs
    if cs.head? = some close then pure ([], cs)
    else if !hadComma then none
    else
      let (a, cs) ← element cs
      let (hasComma, cs) ← comma? cs
      let (as, cs) ← elements close element fuel hasComma cs
      pure (a :: as, cs)

/-- Reads all elements up to the closing character, which remains. Every element but the last ends
in a comma, so there are no more of them than characters. -/
def upTo {α : Type} (close : Char) (element : List Char → Option (α × List Char))
    (cs : List Char) : Option (List α × List Char) :=
  elements close element (cs.length + 1) true cs

/-- Reads all elements and the closing character. -/
def enclosed {α : Type} (close : Char) (element : List Char → Option (α × List Char))
    (cs : List Char) : Option (List α × List Char) := do
  let (as, cs) ← upTo close element cs
  let cs ← literal? [close] cs
  pure (as, cs)

/-- Reads a key, a colon and a value. -/
def pair {α β : Type} (key : List Char → Option (α × List Char))
    (value : α → List Char → Option (β × List Char)) (cs : List Char) : Option (β × List Char) := do
  let (k, cs) ← key cs
  let cs ← skipBlanks cs
  let cs ← literal? [':'] cs
  let cs ← skipBlanks cs
  value k cs

/-- Drops what a reader found. -/
def discard {α : Type} : Option (α × List Char) → Option (Unit × List Char)
  | some (_, cs) => some ((), cs)
  | none => none

/-- Takes something off the front of a text. -/
abbrev Skipper := List Char → Option (Unit × List Char)

/-- How the values inside of a value are skipped. -/
structure Levels where
  /-- Skips a value one level deeper, which may have left its parentheses to `Some` if the flag is
  set; it is there unless the levels are used up. -/
  inner : Option (Bool → Skipper)
  /-- The same two levels deeper. -/
  element : Option (Bool → Skipper)

namespace Levels

variable (l : Levels)

/-- Skips an item of a list. -/
def item : Skipper := fun cs ↦ do (← l.element) false cs

/-- Skips a field with its name. -/
def namedItem : Skipper := fun cs ↦ do
  let skip ← l.element
  pair name? (fun _ ↦ skip false) cs

/-- Skips an entry of a map. -/
def entry : Skipper := pair l.item fun _ ↦ l.item

/-- Skips items up to a closing character, which remains. -/
def itemsUpTo (close : Char) (item : Skipper) : Skipper := fun cs ↦
  if l.inner.isNone then none else discard (upTo close item cs)

/-- Skips items and the closing character. -/
def listOf (close : Char) (item : Skipper) : Skipper := fun cs ↦
  if l.inner.isNone then none else discard (enclosed close item cs)

/-- Skips fields or items in parentheses, if there are any. -/
def parentheses : Skipper := fun cs ↦
  match cs with
  | '(' :: rest =>
    if hasNamedFields rest then l.listOf ')' l.namedItem rest else l.listOf ')' l.item rest
  | _ => some ((), cs)

/-- Skips what follows `Some`. -/
def optional (ext : Extensions) : Skipper := fun cs ↦ do
  let cs ← skipBlanks cs
  let skip ← l.inner
  match cs with
  | '(' :: rest =>
    let rest ← skipBlanks rest
    let (_, rest) ← skip ext.unwrapsOptions rest
    let (_, rest) ← comma? rest
    let rest ← literal? [')'] rest
    pure ((), rest)
  | rest => if ext.implicitSome then skip false rest else none

/-- The words that are values. -/
def words : List String :=
  ["true", "false", "None", "inf", "inff32", "inff64", "NaN", "NaNf32", "NaNf64"]

/-- Skips a value. -/
def whole (ext : Extensions) : Skipper := fun cs ↦
  match words.findSome? (keyword? · cs) with
  | some rest => some ((), rest)
  | none =>
    match keyword? "Some" cs with
    | some rest => l.optional ext rest
    | none =>
      match name? cs with
      | some (_, rest) => do l.parentheses (← skipBlanks rest)
      | none =>
        match cs with
        | '(' :: ')' :: rest => some ((), rest)
        | '(' :: _ => l.parentheses cs
        | '[' :: rest => l.listOf ']' l.item rest
        | '{' :: rest => l.listOf '}' l.entry rest
        | '"' :: _ => discard (string? cs)
        | 'r' :: _ => discard (string? cs)
        | '\'' :: rest => discard (char? .character rest)
        | 'b' :: '\'' :: rest => discard (char? .byte rest)
        | 'b' :: _ => discard (byteString? cs)
        | c :: _ =>
          if c.isDigit || c = '+' || c = '-' || c = '.' then (skipNumber? cs).map ((), ·) else none
        | [] => none

/-- Skips a value that may have left its parentheses to `Some`. -/
def unwrapped (ext : Extensions) : Skipper := fun cs ↦ do
  match ← Content.unwrapped? cs with
  | .fields => l.itemsUpTo ')' l.namedItem cs
  | .items => l.itemsUpTo ')' l.item cs
  | .value => l.whole ext cs

/-- Skips a value, which may have left its parentheses to `Some` if the flag is set. -/
def value (ext : Extensions) (isUnwrapped : Bool) : Skipper :=
  if isUnwrapped then l.unwrapped ext else l.whole ext

end Levels

/-- Skips any value that opens at most `depth` levels. -/
def skipValue (ext : Extensions) : (depth : Nat) → (isUnwrapped : Bool) → Skipper
  | 0, u, cs => Levels.value ⟨none, none⟩ ext u cs
  | 1, u, cs => Levels.value ⟨some (skipValue ext 0), none⟩ ext u cs
  | d + 2, u, cs => Levels.value ⟨some (skipValue ext (d + 1)), some (skipValue ext d)⟩ ext u cs

end Storyline.Ron
