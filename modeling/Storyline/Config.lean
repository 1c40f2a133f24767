import Storyline.Files
import Storyline.Settings
import Storyline.Store.Basic

/-!
# The configuration of the engine

A file holds the timing of dialogues and the seeds of the store; what its text says is up to a
reader of such files. Integers that the file seeds replace the standard ones, but `sanity` is seeded
in any case. A file that cannot be used is reported, and the game goes on with the standard
configuration.
-/

namespace Storyline

/-- The configuration of the engine. -/
structure Config where
  /-- The timing of dialogues. -/
  settings : Settings := {}
  /-- What the store starts from. -/
  seeds : Seeds := .standard
  deriving DecidableEq

/-- Seeds with full sanity, unless they give another value for it. -/
def Seeds.withSanity (s : Seeds) : Seeds :=
  { s with contents := { s.contents with ints := s.contents.ints.insertIfAbsent "sanity" 100 } }

namespace Config

variable (parse : String → Except String Config)

/-- Reads a configuration from the text of a file. -/
def ofText (text : String) : Except String Config :=
  (parse text).map fun config ↦ { config with seeds := config.seeds.withSanity }

/-- Reads a configuration from a file, of which the text is given or the reason why there is
none. -/
def read (path : String) (file : Except FileError String) : Except Causes Config :=
  match file with
  | .error err => .error ["reading engine configuration from '" ++ path ++ "'", err.message]
  | .ok text =>
    match ofText parse text with
    | .error message => .error ["parsing engine configuration from '" ++ path ++ "'", message]
    | .ok config => .ok config

/-- Reads a configuration from a file; the standard one takes its place if there is an error. -/
def load {α : Type} (path : String) (file : Except FileError String) : Told α Config :=
  match read parse path file with
  | .ok config => do
    Told.log .info ("engine configuration loaded from '" ++ path ++ "' (" ++
      Numeral.decimal config.seeds.contents.ints.size ++ " seeded ints, " ++
      Numeral.decimal config.seeds.bounds.length ++ " clamp rules)")
    pure config
  | .error causes => do
    Told.log .warn ("Could not load engine configuration from '" ++ path ++ "': " ++ causes.line ++
      ". Using built-in defaults.")
    pure {}

end Config

end Storyline
