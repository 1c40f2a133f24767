import Storyline.Files.Folder
import Storyline.Play.Interaction

/-!
# Rehearsals

A rehearsal plays a game without a terminal or a disk: the lines that the player types are given
in advance, what is printed is collected, files are kept in memory, and waiting takes no time.
`follow_bind` says that interactions may be followed one after the other.
-/

namespace Storyline.Play

/-- A game in memory. -/
structure Rehearsal where
  /-- The lines that are still to be typed. -/
  lines : List String
  /-- What has been printed, the last text first. -/
  printed : List String := []
  /-- The files. -/
  folder : Folder
  /-- How many columns the screen has. -/
  width : Nat := 80

namespace Rehearsal

/-- The lines of a text; what follows the last line end is a line unless it is empty. -/
def linesOf (text : String) : List String :=
  let parts := text.splitOn "\n"
  if parts.getLast? = some "" then parts.dropLast else parts

/-- A rehearsal that is about to begin, with what will be typed and the files by their paths. -/
def ofInput (input : String) (files : List (String × String)) : Rehearsal :=
  { lines := linesOf input, folder := .ofFiles files }

/-- Prints a text. -/
def print (text : String) (r : Rehearsal) : Rehearsal := { r with printed := text :: r.printed }

/-- The screen as it is. -/
def screen (r : Rehearsal) : String := String.join r.printed.reverse

/-- Takes the next line. -/
def takeLine (r : Rehearsal) : Option String × Rehearsal :=
  (r.lines.head?, { r with lines := r.lines.tail })

/-- Changes the files, if that succeeds. -/
def change (r : Rehearsal) (folder : Except FileError Folder) : Except FileError Unit × Rehearsal :=
  match folder with
  | .ok folder => (.ok (), { r with folder })
  | .error err => (.error err, r)

/-- Follows an interaction to its end. -/
def follow {α : Type} : Interaction α → Rehearsal → α × Rehearsal
  | .done a, r => (a, r)
  | .print text next, r => follow next (r.print text)
  | .askWidth next, r => follow (next r.width) r
  | .ask prompt next, r =>
    let (line, r) := (r.print prompt).takeLine
    follow (next line) r
  | .read path next, r => follow (next (r.folder.read path)) r
  | .hasDirectory path next, r => follow (next (r.folder.hasDirectory path)) r
  | .makeDirectory path next, r =>
    let (answer, r) := r.change (r.folder.makeDirectory (Folder.namesOn path))
    follow (next answer) r
  | .write path text next, r =>
    let (answer, r) := r.change (r.folder.write text (Folder.namesOn path))
    follow (next answer) r
  | .wait _ next, r => follow next r

@[simp] theorem follow_pure {α : Type} (a : α) (r : Rehearsal) :
    follow (pure a : Interaction α) r = (a, r) := rfl

@[simp] theorem follow_bind {α β : Type} (x : Interaction α) (f : α → Interaction β)
    (r : Rehearsal) : follow (x >>= f) r = follow (f (follow x r).1) (follow x r).2 := by
  change follow (x.andThen f) r = _
  induction x generalizing r with
  | done a => rfl
  | print text next ih => exact ih _
  | askWidth next ih => exact ih _ _
  | ask prompt next ih => exact ih _ _
  | read path next ih => exact ih _ _
  | hasDirectory path next ih => exact ih _ _
  | makeDirectory path next ih => exact ih _ _
  | write path text next ih => exact ih _ _
  | wait time next ih => exact ih _

end Rehearsal

end Storyline.Play
