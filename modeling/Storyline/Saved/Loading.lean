import Storyline.Files
import Storyline.Saved.Snapshot

/-!
# Saving and loading snapshots

What is logged and answered when a snapshot is written to a file or read from one. A snapshot of
another version of the engine is read all the same, with a warning.
-/

namespace Storyline.Snapshot

/-- Loads a snapshot from a file, of which the text is given or the reason why there is none. What
snapshot a text holds is up to the reader. -/
def load {α : Type} (parse : String → Except String Snapshot) (path : String)
    (file : Except FileError String) : Told α (Except Causes Snapshot) :=
  match file with
  | .error err => pure (.error ["reading snapshot " ++ path, err.message])
  | .ok text =>
    match parse text with
    | .error message => pure (.error ["parsing snapshot " ++ path, message])
    | .ok s => do
      if s.version ≠ engineVersion then
        Told.log .warn ("snapshot '" ++ path ++ "' was written by version " ++ s.version ++
          " (running " ++ engineVersion ++ ")")
      pure (.ok s)

/-- The log record of a snapshot that was written to a file. -/
def logSaved {α : Type} (path : String) : Told α Unit :=
  Told.log .info ("session snapshot saved to '" ++ path ++ "'")

end Storyline.Snapshot
