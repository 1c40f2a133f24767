import Storyline.KeyMap
import Storyline.Ron.Skip

/-!
# Reading RON

A `Reader` takes a value of one type off the front of a text. The readers here are the building
blocks for the types of the library: lists, maps, optional values and records. A record is read
field by field in any order; a field twice is an error, and a field that the record does not know
is skipped.

Readers carry a `Context`: the extensions that the head of the file switches on, and the number of
levels that may still be opened.
-/

namespace Storyline.Ron

open Text (literal?)

/-- What a reader has to know. -/
structure Context where
  /-- The extensions of the file. -/
  extensions : Extensions := {}
  /-- The levels that may still be opened. -/
  depth : Nat := 128

/-- Takes a value off the front of a text. -/
abbrev Reader (α : Type) := Context → List Char → Option (α × List Char)

/-- A reader inside one more level. -/
def deeper {α : Type} (r : Reader α) : Reader α := fun ctx cs ↦
  match ctx.depth with
  | 0 => none
  | d + 1 => r { ctx with depth := d } cs

/-- Reads a truth value. -/
def bool : Reader Bool := fun _ cs ↦
  match keyword? "true" cs with
  | some rest => some (true, rest)
  | none => (keyword? "false" cs).map (false, ·)

/-- Reads a string. -/
def string : Reader String := fun _ cs ↦ string? cs

/-- Reads a 32-bit integer. -/
def int32 : Reader Int32 := fun _ cs ↦ int32? cs

/-- Reads a number of 32 bits. -/
def float32 : Reader Binary32 := fun _ cs ↦ float? "f32" cs

/-- Reads a number of 64 bits. -/
def float64 : Reader Binary64 := fun _ cs ↦ float? "f64" cs

/-- Reads a list. -/
def list {α : Type} (r : Reader α) : Reader (List α) := fun ctx cs ↦ do
  let cs ← literal? ['['] cs
  deeper (fun ctx cs ↦ enclosed ']' (deeper r ctx) cs) ctx cs

/-- Reads a map with strings for keys; of several entries with one key the last counts. -/
def map {α : Type} (r : Reader α) : Reader (KeyMap α) := fun ctx cs ↦ do
  let cs ← literal? ['{'] cs
  let entry (ctx : Context) := pair (deeper string ctx) fun key cs ↦
    (deeper r ctx cs).map fun p ↦ ((key, p.1), p.2)
  let (entries, cs) ← deeper (fun ctx cs ↦ enclosed '}' (entry ctx) cs) ctx cs
  pure (KeyMap.ofList entries, cs)

/-- Reads an optional value. -/
def option {α : Type} (r : Reader α) : Reader (Option α) := fun ctx cs ↦
  match keyword? "None" cs with
  | some rest => some (none, rest)
  | none =>
    let implicit (cs : List Char) : Option (Option α × List Char) :=
      if ctx.extensions.implicitSome then (deeper r ctx cs).map fun p ↦ (some p.1, p.2) else none
    match keyword? "Some" cs with
    | none => implicit cs
    | some rest => do
      let rest ← skipBlanks rest
      match rest with
      | '(' :: rest =>
        let rest ← skipBlanks rest
        let (a, rest) ← deeper r ctx rest
        let (_, rest) ← comma? rest
        let rest ← literal? [')'] rest
        pure (some a, rest)
      | _ => implicit rest

/-! ### Records -/

/-- Takes the name of a record off the front, where there is one. -/
def recordName (name : String) (ctx : Context) (cs : List Char) : Option (List Char) :=
  if continuesName cs then
    match name? cs with
    | some (found, rest) => if found = name then some rest else none
    | none => none
  else if ctx.extensions.explicitNames then none
  else some cs

/-- Stores what a field holds in the fields read so far; it fails for a field that was read
before. -/
abbrev FieldUpdate (σ : Type) := σ → Option σ

/-- The reader of a field: `get` says what was read of it before, and `put` stores its value. -/
def field {σ α : Type} (r : Reader α) (get : σ → Option α) (put : α → σ → σ) :
    Reader (FieldUpdate σ) := fun ctx cs ↦
  (r ctx cs).map fun p ↦ (fun s ↦ if (get s).isSome then none else some (put p.1 s), p.2)

/-- The reader of a field that the record does not know. -/
def unknownField {σ : Type} : Reader (FieldUpdate σ) := fun ctx cs ↦
  (skipValue ctx.extensions ctx.depth false cs).map fun p ↦ (some, p.2)

/-- Reads a record by its fields, starting from the fields of `start`, and puts it together with
`finish`. -/
def record {σ α : Type} (name : String) (fields : List (String × Reader (FieldUpdate σ)))
    (start : σ) (finish : σ → Option α) : Reader α := fun ctx cs ↦ do
  let cs ← recordName name ctx cs
  let cs ← skipBlanks cs
  let cs ← literal? ['('] cs
  let item (ctx : Context) := pair (fun cs ↦ if ctx.depth = 0 then none else name? cs) fun key ↦
    deeper ((fields.lookup key).getD unknownField) ctx
  let (updates, cs) ← deeper (fun ctx cs ↦ enclosed ')' (item ctx) cs) ctx cs
  let read ← updates.foldlM (fun s update ↦ update s) start
  let value ← finish read
  pure (value, cs)

/-! ### Documents -/

/-- Takes one token after another off the front, each with the blanks behind it. -/
def literals? : List String → List Char → Option (List Char)
  | [], cs => some cs
  | t :: ts, cs => do
    let cs ← literal? t.toList cs
    let cs ← skipBlanks cs
    literals? ts cs

/-- Switches an extension on by its name. -/
def Extensions.enable (ext : Extensions) : String → Option Extensions
  | "implicit_some" => some { ext with implicitSome := true }
  | "explicit_struct_names" => some { ext with explicitNames := true }
  | "unwrap_newtypes" => some ext
  | "unwrap_variant_newtypes" => some { ext with unwrapsOptions := true }
  | _ => none

/-- Reads names of extensions separated by commas, `fuel` of them at most. -/
def extensionNames (ext : Extensions) : Nat → List Char → Option (Extensions × List Char)
  | 0, _ => none
  | fuel + 1, cs => do
    let (name, cs) ← name? cs
    let ext ← ext.enable name
    let (hasComma, cs) ← comma? cs
    if hasComma && cs.head? != some ')' then extensionNames ext fuel cs else pure (ext, cs)

/-- Reads the attributes at the head of a file, `fuel` of them at most. -/
def head (ext : Extensions) : Nat → List Char → Option (Extensions × List Char)
  | 0, _ => none
  | fuel + 1, cs =>
    match cs with
    | '#' :: _ => do
      let cs ← literals? ["#", "!", "[", "enable", "("] cs
      let (ext, cs) ← extensionNames ext (cs.length + 1) cs
      let cs ← literals? [")", "]"] cs
      head ext fuel cs
    | _ => some (ext, cs)

/-- Reads a whole file: its head, one value, and nothing else but blanks. -/
def document {α : Type} (r : Reader α) (text : String) : Option α := do
  let cs ← skipBlanks text.toList
  let (extensions, cs) ← head {} (cs.length + 1) cs
  let (a, cs) ← r { extensions } cs
  let cs ← skipBlanks cs
  if cs.isEmpty then some a else none

end Storyline.Ron
