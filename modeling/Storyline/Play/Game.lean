import Storyline.Config
import Storyline.Play.Turn
import Storyline.Tree.Loading

/-!
# A game from beginning to end

A game opens with its configuration, its tree and its title, goes on turn by turn while the
dialogue is running, and closes with the ending that was reached.
-/

namespace Storyline.Play

open Interaction

/-- The places where the files that come with the game are looked for. -/
def dataCandidates : List String := ["./tale_engine/data", "./data"]

/-- Where they are taken to be if there is no such directory. -/
def defaultDataRoot : String := "tale_engine/data"

/-- The first of some paths that leads to a directory. -/
def firstDirectory (otherwise : String) : List String → Interaction String
  | [] => pure otherwise
  | path :: paths => hasDirectory path fun found ↦
    if found then pure path else firstDirectory otherwise paths

/-- A game that is being played. -/
structure Game where
  /-- The tree that it starts with. -/
  tree : IndexedTree
  /-- The engine. -/
  engine : Engine

namespace Game

/-- The engine of a new game. -/
def newEngine (config : Config) : Engine :=
  let store : Told Change Store := Store.ofSeeds config.seeds
  { world := { store := store.value }, settings := config.settings }

variable (lib : Libraries)

/-- Opens the game of a tree: its title, and its first node. -/
def openTree (tree : IndexedTree) (config : Config) : Interaction (Except Causes Game) := do
  say (titleText tree.tree.title)
  let (answer, engine) ← shown lib ((newEngine config).start tree)
  match answer with
  | .ok () => pure (.ok ⟨tree, engine⟩)
  | .error err => pure (.error [err.message])

/-- Opens the game that the arguments of the program name: the first is the path of a tree. -/
def openWith (args : List String) : Interaction (Except Causes Game) := do
  let root ← firstDirectory defaultDataRoot dataCandidates
  let configPath := root ++ "/engine.toml"
  read configPath fun file ↦
    let config : Told Notice Config := Config.load lib.readConfig configPath file
    let treePath := args.head?.getD (root ++ "/intro.ron")
    read treePath fun file ↦
      let tree : Told Notice (Except Causes IndexedTree) :=
        IndexedTree.load lib.readTree treePath file
      match within "while loading dialogue tree" tree.value with
      | .error causes => pure (.error causes)
      | .ok tree => openTree lib tree config.value

/-- Whether the game is over. -/
def isOver (g : Game) : Bool := !g.engine.isActive

/-- One turn of a game. -/
def next (g : Game) : Interaction (Except Causes Game) := do
  match ← turn lib g.tree g.engine with
  | .ok engine => pure (.ok { g with engine })
  | .error err => pure (.error [err.message])

/-- Closes a game. -/
def close (g : Game) : Interaction Unit := say (farewell g.engine.world)

/-- Plays on to the end, for so many turns at most; the answer is none where they do not
suffice. -/
def finish : Nat → Game → Interaction (Option (Except Causes Unit))
  | 0, _ => pure none
  | turns + 1, g => do
    if g.isOver then
      g.close
      pure (some (.ok ()))
    else
      match ← g.next lib with
      | .ok g => finish turns g
      | .error causes => pure (some (.error causes))

end Game

end Storyline.Play
