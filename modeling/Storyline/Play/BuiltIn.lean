import Storyline.Play.Libraries
import Storyline.Ron.Snapshot
import Storyline.Ron.Tree
import Storyline.Toml.Config

/-!
# The libraries of the program

The program reads configurations in TOML, and reads trees and reads and writes snapshots in RON. It
does not break lines: a paragraph stands on screen as it is authored, but for spaces at the ends of
its lines. That is how a paragraph looks whose lines fit.
-/

namespace Storyline.Play

/-- A text without the spaces at the ends of its lines. -/
def trimLines : List Char → List Char
  | [] => []
  | c :: cs =>
    let rest := trimLines cs
    if c = ' ' && (rest.isEmpty || rest.head? = some '\n') then rest else c :: rest

/-- What was read, or a message for a text that could not be. -/
def readOr {α : Type} (message : String) (read? : String → Option α) (text : String) :
    Except String α :=
  (read? text).elim (.error message) .ok

/-- The libraries that the program is built with. -/
def Libraries.builtIn : Libraries where
  readConfig := readOr "this is no configuration in TOML" Config.ofText?
  readTree := readOr "this is no dialogue tree in RON" Tree.ofText?
  readSnapshot := readOr "this is no session snapshot in RON" Snapshot.ofText?
  writeSnapshot s := .ok s.toText
  fill _ text := String.ofList (trimLines text.toList)

namespace Libraries

theorem readConfig_builtIn {text : String} {config : Config}
    (h : Config.ofText? text = some config) : builtIn.readConfig text = .ok config := by
  simp [builtIn, readOr, h]

theorem readSnapshot_builtIn {text : String} {s : Snapshot} (h : Snapshot.ofText? text = some s) :
    builtIn.readSnapshot text = .ok s := by
  simp [builtIn, readOr, h]

end Libraries

end Storyline.Play
