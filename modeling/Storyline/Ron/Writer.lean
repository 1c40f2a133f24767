import Storyline.Binary.Text
import Storyline.KeyMap
import Storyline.Text.Quoted

/-!
# Writing RON

A `Writer` gives a value as text, at a depth of indentation. Lists, maps and records put each of
their parts on a line of its own, four blanks deeper, with a comma behind it; an empty list or map
has no lines. Strings are quoted with every character escaped that cannot be seen on its own.
-/

namespace Storyline.Ron

/-- Gives a value as text, at a depth of indentation. -/
abbrev Writer (α : Type) := α → Nat → String

namespace Writer

/-- The blanks in front of a line. -/
def indent (depth : Nat) : String := String.ofList (List.replicate (4 * depth) ' ')

/-- Parts between an opening and a closing text, each on a line of its own. -/
def block (opening closing : String) (parts : List (Nat → String)) (depth : Nat) : String :=
  if parts.isEmpty then opening ++ closing
  else
    opening ++ "\n" ++
      String.join (parts.map fun part ↦ indent (depth + 1) ++ part (depth + 1) ++ ",\n") ++
      indent depth ++ closing

/-- Writes a string. -/
def string : Writer String := fun s _ ↦ Text.quoteBoth s

/-- Writes a truth value. -/
def bool : Writer Bool := fun b _ ↦ if b then "true" else "false"

/-- Writes a 32-bit integer. -/
def int32 : Writer Int32 := fun n _ ↦ Numeral.plain n.toInt

/-- Writes a number. What is no number keeps its sign. -/
def float {f : Format} : Writer (Binary f) := fun x _ ↦
  (if x.isNaN && x.isNegative then "-" else "") ++ x.text .saved

/-- Writes an optional value. -/
def option {α : Type} (w : Writer α) : Writer (Option α) := fun x depth ↦
  match x with
  | some a => "Some(" ++ w a depth ++ ")"
  | none => "None"

/-- Writes a list. -/
def list {α : Type} (w : Writer α) : Writer (List α) := fun as ↦ block "[" "]" (as.map w)

/-- Writes a map in the order of its keys. -/
def map {α : Type} (w : Writer α) : Writer (KeyMap α) := fun m ↦
  block "\x7b" "\x7d" (m.entries.map fun e depth ↦ string e.1 depth ++ ": " ++ w e.2 depth)

/-- Writes a record without its name, each field behind its own name. -/
def record (fields : List (String × (Nat → String))) : Nat → String :=
  block "(" ")" (fields.map fun f depth ↦ f.1 ++ ": " ++ f.2 depth)

end Writer

end Storyline.Ron
