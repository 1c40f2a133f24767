import Storyline.Dialogue.Engine
import Storyline.Play.Interaction
import Storyline.Play.Libraries
import Storyline.Text.UpperCase

/-!
# What the player sees

The texts of the game on screen. A list of choices numbers them from one. What the engine announces
is printed as it comes (`Play.shown`); a node is a free line, its speaker where it has one, and its
text as a paragraph.
-/

namespace Storyline.Play

/-- How wide the line of the title is. -/
def titleWidth : Nat := 72

/-- A text in the middle of a line: blanks on both sides up to a width, one more on the right if
they cannot be equal. -/
def centered (width : Nat) (text : String) : String :=
  let gap := width - text.length
  let blanks (n : Nat) : String := String.ofList (List.replicate n ' ')
  blanks (gap / 2) ++ text ++ blanks (gap - gap / 2)

/-- The line of the title and a free line. -/
def titleText (title : String) : String := centered titleWidth (Text.upper title) ++ "\n\n"

/-- The choices from a number on, one a line. -/
def choiceLines : Nat → List String → String
  | _, [] => ""
  | n, text :: rest => "  " ++ Numeral.decimal n ++ ". " ++ text ++ "\n" ++ choiceLines (n + 1) rest

/-- What is printed where a lone choice is taken without asking. -/
def loneChoiceLine (text : String) : String := "  > " ++ text ++ "\n"

/-- What is asked for where there are no choices. -/
def pausePrompt : String := "[Enter] "

/-- What is asked for below a list of choices. -/
def choicePrompt : String := ">> "

/-- The answer to a line that cannot be understood. -/
def helpText : String := "Enter a choice number, 'save <slot>', 'load <slot>' or 'quit'."

/-- What is printed at the very end: the ending that was reached, and what the player carries. -/
def farewell (w : World) : String :=
  let ending := w.store.getString World.endingKey
  let items := w.inventory.items
  (if ending.isEmpty then "" else "\nEnding reached: " ++ ending ++ "\n") ++
    (if items.isEmpty then "" else "You carry: " ++ String.intercalate ", " items ++ "\n")

/-! ### What is announced -/

section

open Interaction

variable (lib : Libraries)

/-- The most columns that a paragraph takes up. -/
def paragraphWidth : Nat := 88

/-- Prints a paragraph, filled up to the width of the terminal or to that of a paragraph, whichever
is less. -/
def sayParagraph (text : String) : Interaction Unit :=
  askWidth fun width ↦ sayLine (lib.fill (min width paragraphWidth) text)

/-- Prints a step of the dialogue. -/
def sayEvent : Event → Interaction Unit
  | .nodeDisplayed _ node => do
    sayLine ""
    if let some speaker := node.speaker then sayLine speaker
    sayParagraph lib node.text
  | .impactApplied key delta => sayLine ("(" ++ key ++ " " ++ Numeral.signed delta.toInt ++ ")")
  | .itemGiven id => sayLine ("You received " ++ id ++ ".")
  | .ended => sayLine "\n~ fin ~"
  | .choicesUpdated _ _ => pure ()
  | .choiceSelected _ _ _ => pure ()

/-- Prints what the engine announces, in order; changes of variables are not shown. -/
def sayNotices : List Notice → Interaction Unit
  | [] => pure ()
  | .event e :: rest => do
    sayEvent lib e
    sayNotices rest
  | .change _ :: rest => sayNotices rest

/-- Carries out an operation of the engine and prints what it announces. -/
def shown {β : Type} (x : Told Notice β) : Interaction β := do
  sayNotices lib x.notices
  pure x.value

end

end Storyline.Play
