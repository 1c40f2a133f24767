import Storyline.Play.Screen
import Storyline.Saved.Loading

/-!
# Turns of the player

`turn` is what happens between two looks at the engine: an end node is waited out, a lone choice
is taken if the tree says so, and in all other cases the player is asked. The player answers with
the number of a choice, or with a request to save, to load or to quit; where there are no choices,
any other line goes on.

A request leaves the engine as it is, unless it loads a game or quits.
-/

namespace Storyline.Play

open Interaction

/-! ### Requests -/

/-- What a player can ask for besides choosing. -/
inductive Request where
  | quit
  | save (slot : String)
  | load (slot : String)
  deriving DecidableEq

/-- The slot that is used where none is named. -/
def quickSlot : String := "quick"

/-- The slot that the rest of a line names. -/
def slotOf (rest : String) : String := if Text.isBlankText rest then quickSlot else rest

/-- The request that a line makes. It is known by the first word, in any case. -/
def Request.ofLine? (line : String) : Option Request :=
  let (word, rest) := Text.splitAtBlank line
  let word := Text.lower word
  if word = "quit" || word = "q" then some .quit
  else if word = "save" then some (.save (slotOf rest))
  else if word = "load" then some (.load (slotOf rest))
  else none

variable (lib : Libraries)

/-- Saves a snapshot in a file; the directory is made if it is missing. -/
def saveSnapshot (path : String) (s : Snapshot) : Interaction (Except Causes Unit) :=
  match lib.writeSnapshot s with
  | .error message =>
    pure (.error ["error converting session snapshot to 'ron' format", message])
  | .ok text =>
    makeDirectory saveDirectory fun made ↦
      match made with
      | .error err => pure (.error ["creating '" ++ saveDirectory ++ "'", err.message])
      | .ok () => write path text fun written ↦
        match written with
        | .error err => pure (.error ["writing snapshot to '" ++ path ++ "'", err.message])
        | .ok () => pure (.ok ())

/-- Saves the game in a slot. -/
def saveGame (e : Engine) (slot : String) : Interaction Unit := do
  let path := slotPath slot
  match ← saveSnapshot lib path (Snapshot.capture e) with
  | .ok () => sayLine ("Saved to " ++ path)
  | .error causes => sayLine ("Could not save: " ++ causes.line)

/-- Prints the message of a refused call. -/
def showAnswer : Except DialogueError Unit × Engine → Interaction Engine
  | (.ok (), e) => pure e
  | (.error err, e) => do
    sayLine err.message
    pure e

/-- Puts the engine back to a snapshot, and prints why it could not be done. A snapshot without a
dialogue starts the tree anew. -/
def applySnapshot (tree : IndexedTree) (e : Engine) (path : String) (s : Snapshot) :
    Interaction Engine := do
  let (answer, e) ← shown lib (s.apply e (some tree))
  match answer with
  | .error err =>
    sayLine ("Could not load: " ++ Causes.line err.causes)
    pure e
  | .ok () =>
    sayLine ("Loaded " ++ path)
    if e.isActive then pure e else shown lib (e.start tree) >>= showAnswer

/-- Loads the game of a slot. -/
def loadGame (tree : IndexedTree) (e : Engine) (slot : String) : Interaction Engine :=
  let path := slotPath slot
  read path fun file ↦
    let loaded : Told Notice (Except Causes Snapshot) :=
      Snapshot.load lib.readSnapshot path file
    match loaded.value with
    | .error causes => do
      sayLine ("Could not load: " ++ causes.line)
      pure e
    | .ok s => applySnapshot lib tree e path s

/-- Does what the player asks for. -/
def Request.carryOut (tree : IndexedTree) (e : Engine) : Request → Interaction Engine
  | .quit => do
    let (_, e) ← shown lib e.forceEnd
    pure e
  | .save slot => do
    saveGame lib e slot
    pure e
  | .load slot => loadGame lib tree e slot

/-! ### Answers -/

/-- What a line does where there are no choices. -/
def continueWith (tree : IndexedTree) (e : Engine) (line : String) : Interaction Engine :=
  match Request.ofLine? (Text.trim line) with
  | some request => request.carryOut lib tree e
  | none => shown lib e.advance >>= showAnswer

/-- What a line does below a list of choices. -/
def chooseWith (tree : IndexedTree) (e : Engine) (line : String) : Interaction Engine :=
  let line := Text.trim line
  match Request.ofLine? line with
  | some request => request.carryOut lib tree e
  | none =>
    match Numeral.readIndex? line.toList with
    | some (n + 1) => shown lib (e.select n) >>= showAnswer
    | _ => do
      sayLine helpText
      pure e

/-- Asks for a line; at the end of the input the dialogue ends. -/
def answered (e : Engine) (prompt : String) (use : String → Interaction Engine) :
    Interaction Engine :=
  ask prompt fun line ↦
    match line with
    | some line => use line
    | none => do
      let (_, e) ← shown lib e.forceEnd
      pure e

/-- Waits until an end node closes itself. -/
def waitOut (e : Engine) : Interaction Engine :=
  wait e.timeToEnd (shown lib (e.update e.timeToEnd))

/-- The texts of the choices on screen. -/
def choiceTexts (e : Engine) : List String :=
  let visible : Told Notice (List (Nat × Choice)) := e.visibleChoices
  visible.value.map (·.2.text)

/-- One turn of a running dialogue; the engine may refuse to take a lone choice. -/
def turn (tree : IndexedTree) (e : Engine) : Interaction (Except DialogueError Engine) :=
  match choiceTexts e with
  | [] =>
    if e.pendingAutoEnd then .ok <$> waitOut lib e
    else .ok <$> answered lib e pausePrompt (continueWith lib tree e)
  | text :: texts =>
    if texts.isEmpty && e.currentTree?.any (·.tree.autoAdvanceSingleChoice) then do
      say (loneChoiceLine text)
      let (answer, e) ← shown lib (e.select 0)
      pure (answer.map fun () ↦ e)
    else do
      say (choiceLines 1 (text :: texts))
      .ok <$> answered lib e choicePrompt (chooseWith lib tree e)

end Storyline.Play
