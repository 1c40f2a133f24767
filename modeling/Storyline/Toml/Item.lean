import Storyline.Toml.Number
import Storyline.Toml.Text

/-!
# Values in TOML

An `Item` is what a key stands for: a plain value, an array, an inline table, a table with a
header or dotted keys of its own, or an array of such tables. Tables remember how they came about.
One is *implicit* if only parts of it have been named so far, and *dotted* if that was done by the
keys in front of an equals sign.
-/

namespace Storyline.Toml

/-- What a key stands for. -/
inductive Item where
  | string (s : String)
  | integer (i : Int)
  | float (x : Binary64)
  | boolean (b : Bool)
  | datetime (text : String)
  | array (items : List Item)
  /-- A table between braces, or one that the dotted keys inside braces open. -/
  | inline (dotted : Bool) (entries : List (String × Item))
  /-- A table with a header, or one that is part of the name of another. -/
  | table (implicit dotted : Bool) (entries : List (String × Item))
  /-- The tables under a header in double brackets. -/
  | tables (elements : List (List (String × Item)))

/-- The entries of a table, in the order in which they were made. -/
abbrev Entries := List (String × Item)

namespace Entries

/-- Adds an entry, unless there is one with this key. -/
def add? (es : Entries) (key : String) (item : Item) : Option Entries :=
  if (es.lookup key).isSome then none else some (es ++ [(key, item)])

/-- Puts an entry in the place of the one with its key, or at the end. -/
def set (es : Entries) (key : String) (item : Item) : Entries :=
  if (es.lookup key).isSome then es.map fun e ↦ if e.1 = key then (key, item) else e
  else es ++ [(key, item)]

/-- Adds an entry of an inline table under a dotted key, in a table that was opened by dotted keys
if `dotted`. -/
def addInline? (key : String) (item : Item) : Bool → List String → Entries → Option Entries
  | _, [], es => es.add? key item
  | _, k :: ks, es =>
    match es.lookup k with
    | none => (addInline? key item true ks []).map fun sub ↦ es.set k (.inline true sub)
    | some (.inline true sub) =>
      (addInline? key item true ks sub).map fun sub ↦ es.set k (.inline true sub)
    | some _ => none

end Entries

/-! ### Reading values -/

/-- Reads the items of an array up to its closing bracket, `fuel` of them at most. -/
def arrayItems (value : List Char → Option (Item × List Char)) :
    Nat → List Char → Option (List Item × List Char)
  | 0, _ => none
  | fuel + 1, cs => do
    match ← skipLines false cs with
    | ']' :: cs => pure ([], cs)
    | cs =>
      let (item, cs) ← value cs
      match ← skipLines false cs with
      | ',' :: cs =>
        let (items, cs) ← arrayItems value fuel cs
        pure (item :: items, cs)
      | ']' :: cs => pure ([item], cs)
      | _ => none

/-- Reads the entries of an inline table up to its closing brace, `fuel` of them at most. -/
def inlineEntries (value : List Char → Option (Item × List Char)) :
    Nat → Entries → List Char → Option (Entries × List Char)
  | 0, _, _ => none
  | fuel + 1, es, cs => do
    let (path, name, cs) ← key? cs
    match cs with
    | '=' :: cs =>
      let (item, cs) ← value (skipBlanks cs)
      let es ← es.addInline? name item false path
      match skipBlanks cs with
      | ',' :: cs => inlineEntries value fuel es cs
      | '}' :: cs => pure (es, cs)
      | _ => none
    | _ => none

/-- Reads a number or a date. -/
def numeric? (cs : List Char) : Option (Item × List Char) :=
  match datetime? cs with
  | some (text, rest) => some (.datetime text, rest)
  | none =>
    match float? cs with
    | some (x, rest) => some (.float x, rest)
    | none => (integer? cs).map fun p ↦ (.integer p.1, p.2)

/-- Reads a value that is no array and no table. -/
def scalar? (cs : List Char) : Option (Item × List Char) :=
  match cs with
  | [] => none
  | c :: _ =>
    if c = '"' || c = '\'' then (string? cs).map fun p ↦ (.string p.1, p.2)
    else if c = '+' || c = '-' || c.isDigit then numeric? cs
    else match Text.literal? "true".toList cs with
      | some rest => some (.boolean true, rest)
      | none =>
        match Text.literal? "false".toList cs with
        | some rest => some (.boolean false, rest)
        | none => (special? cs).map fun p ↦ (.float p.1, p.2)

/-- Reads a value in which so many arrays and inline tables may be open at once. -/
def value? : Nat → List Char → Option (Item × List Char)
  | 0, cs =>
    match cs with
    | '[' :: _ => none
    | '{' :: _ => none
    | _ => scalar? cs
  | depth + 1, cs =>
    match cs with
    | '[' :: cs =>
      (arrayItems (value? depth) (cs.length + 1) cs).map fun p ↦ (.array p.1, p.2)
    | '{' :: cs =>
      match skipBlanks cs with
      | '}' :: cs => some (.inline false [], cs)
      | cs =>
        (inlineEntries (value? depth) (cs.length + 1) [] cs).map fun p ↦ (.inline false p.1, p.2)
    | _ => scalar? cs

end Storyline.Toml
