import Storyline.Play.BuiltIn
import Storyline.Play.Game

/-!
# The program

`storyline [tree.ron]` plays a tree on the terminal, by default the one that comes with the game.
At a list of choices the player enters a number, `save <slot>`, `load <slot>` or `quit`.
-/

namespace Storyline

/-- The error of a file system by its number, or else by its text. -/
def FileError.ofCode (code : UInt32) (text : String) : FileError :=
  if code = 2 then .notFound
  else if code = 17 then .exists
  else if code = 20 then .notDirectory
  else if code = 21 then .isDirectory
  else if code = 36 then .nameTooLong
  else .other text

/-- An error of the system as one of a file. -/
def FileError.ofSystem (err : IO.Error) : FileError :=
  match err with
  | .noFileOrDirectory _ code _ => ofCode code err.toString
  | .alreadyExists _ code _ => ofCode code err.toString
  | .inappropriateType _ code _ => ofCode code err.toString
  | .invalidArgument _ code _ => ofCode code err.toString
  | _ => .other err.toString

/-- Carries out an action on files, and keeps its error as an answer. -/
def attempted {α : Type} (action : IO α) : IO (Except FileError α) := do
  match ← action.toBaseIO with
  | .ok a => pure (.ok a)
  | .error err => pure (.error (FileError.ofSystem err))

/-- The columns of a terminal that does not say how many it has. -/
def usualWidth : Nat := 80

/-- Carries out an interaction on the terminal and the disk. -/
def Interaction.perform {α : Type} : Interaction α → IO α
  | .done a => pure a
  | .print text next => do
    IO.print text
    next.perform
  | .askWidth next => (next usualWidth).perform
  | .ask prompt next => do
    IO.print prompt
    (← IO.getStdout).flush
    let line ← (← IO.getStdin).getLine
    (next (if line.isEmpty then none else some line)).perform
  | .read path next => do
    let answer ← attempted (IO.FS.readFile path)
    (next answer).perform
  | .hasDirectory path next => do
    let answer ← attempted do
      let place ← IO.FS.realPath path
      place.isDir
    (next (answer.toOption.any id)).perform
  | .makeDirectory path next => do
    let answer ← attempted (IO.FS.createDirAll path)
    (next answer).perform
  | .write path text next => do
    let answer ← attempted (IO.FS.writeFile path text)
    (next answer).perform
  | .wait time next => do
    IO.sleep (time.nanos / 1000000).toUInt32
    next.perform

namespace Play

/-- Plays a game to its end. -/
partial def Game.playOn (g : Game) : IO (Except Causes Unit) := do
  if g.isOver then
    g.close.perform
    pure (.ok ())
  else
    match ← (g.next .builtIn).perform with
    | .ok g => g.playOn
    | .error causes => pure (.error causes)

/-- Plays the game that the arguments of the program name. -/
def playWith (args : List String) : IO (Except Causes Unit) := do
  match ← (Game.openWith .builtIn args).perform with
  | .ok game => game.playOn
  | .error causes => pure (.error causes)

end Play

end Storyline

/-- Plays a game on the terminal; the answer is the exit code. -/
def main (args : List String) : IO UInt32 := do
  match ← Storyline.Play.playWith args with
  | .ok () => pure 0
  | .error causes =>
    IO.eprint causes.report
    pure 1
