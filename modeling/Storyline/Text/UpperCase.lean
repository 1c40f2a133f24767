import Storyline.Text.UpperCase.Table

/-!
# Upper case

The full upper-case mapping of Unicode, without the rules of particular languages. Some characters
become two or three, such as U+00DF.
-/

namespace Storyline.Text

/-- The upper-case form of a character. -/
def upperChar (c : Char) : List Char :=
  match upperExpansions.find? (·.1 == c.toNat) with
  | some (_, codes) => codes.map Char.ofNat
  | none => [Char.ofNat (shiftBy upperRuns c.toNat)]

/-- The upper-case form of a text. -/
def upper (s : String) : String := String.ofList (s.toList.flatMap upperChar)

end Storyline.Text
