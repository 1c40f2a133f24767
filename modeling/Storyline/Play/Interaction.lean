import Storyline.Duration
import Storyline.Files

/-!
# Programs that talk to a player

An `Interaction` is a program as the requests that it makes and what it does with the answers. It
can be carried out on a terminal and a disk, or followed in memory, and what holds of all of its
runs can be read off it. Interactions are chained as a monad: the second begins where the first is
done.
-/

namespace Storyline

/-- A program that prints, asks for lines, uses files and waits. -/
inductive Interaction (α : Type) where
  /-- It is over, with a result. -/
  | done (a : α)
  /-- Prints a text. -/
  | print (text : String) (next : Interaction α)
  /-- Asks how many columns the terminal has. -/
  | askWidth (next : Nat → Interaction α)
  /-- Prints a prompt and asks for a line; the answer is none at the end of the input. -/
  | ask (prompt : String) (next : Option String → Interaction α)
  /-- Reads a file. -/
  | read (path : String) (next : Except FileError String → Interaction α)
  /-- Asks whether there is a directory at a path. -/
  | hasDirectory (path : String) (next : Bool → Interaction α)
  /-- Makes a directory where there is none. -/
  | makeDirectory (path : String) (next : Except FileError Unit → Interaction α)
  /-- Writes a file. -/
  | write (path text : String) (next : Except FileError Unit → Interaction α)
  /-- Lets time pass. -/
  | wait (time : Duration) (next : Interaction α)

namespace Interaction

variable {α β : Type}

/-- Goes on with the result of an interaction. -/
def andThen (f : α → Interaction β) : Interaction α → Interaction β
  | done a => f a
  | print text next => print text (next.andThen f)
  | askWidth next => askWidth fun width ↦ (next width).andThen f
  | ask prompt next => ask prompt fun line ↦ (next line).andThen f
  | read path next => read path fun text ↦ (next text).andThen f
  | hasDirectory path next => hasDirectory path fun answer ↦ (next answer).andThen f
  | makeDirectory path next => makeDirectory path fun answer ↦ (next answer).andThen f
  | write path text next => write path text fun answer ↦ (next answer).andThen f
  | wait time next => wait time (next.andThen f)

instance : Monad Interaction where
  pure := done
  bind x f := x.andThen f

theorem andThen_done (x : Interaction α) : x.andThen done = x := by
  induction x with
  | done a => rfl
  | print text next ih => simp [andThen, ih]
  | askWidth next ih => simp [andThen, ih]
  | ask prompt next ih => simp [andThen, ih]
  | read path next ih => simp [andThen, ih]
  | hasDirectory path next ih => simp [andThen, ih]
  | makeDirectory path next ih => simp [andThen, ih]
  | write path text next ih => simp [andThen, ih]
  | wait time next ih => simp [andThen, ih]

theorem andThen_andThen {γ : Type} (x : Interaction α) (f : α → Interaction β)
    (g : β → Interaction γ) : (x.andThen f).andThen g = x.andThen fun a ↦ (f a).andThen g := by
  induction x with
  | done a => rfl
  | print text next ih => simp [andThen, ih]
  | askWidth next ih => simp [andThen, ih]
  | ask prompt next ih => simp [andThen, ih]
  | read path next ih => simp [andThen, ih]
  | hasDirectory path next ih => simp [andThen, ih]
  | makeDirectory path next ih => simp [andThen, ih]
  | write path text next ih => simp [andThen, ih]
  | wait time next ih => simp [andThen, ih]

instance : LawfulMonad Interaction := LawfulMonad.mk' Interaction
  (fun x ↦ andThen_done x)
  (fun _ _ ↦ rfl)
  (fun x f g ↦ andThen_andThen x f g)

/-- Prints a text. -/
def say (text : String) : Interaction Unit := print text (done ())

/-- Prints a text and ends the line. -/
def sayLine (text : String) : Interaction Unit := say (text ++ "\n")

end Interaction

end Storyline
