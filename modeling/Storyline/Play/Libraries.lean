import Storyline.Config
import Storyline.Saved.Snapshot

/-!
# What a game takes from libraries

How its files are written, and how a paragraph is broken into lines, is not for the game to say: it
takes readers and a writer of its files and a function that fills lines from outside. Everything
that a game does is said for any such functions.
-/

namespace Storyline.Play

/-- The functions that a game takes from libraries. Where one of them fails, it says why. -/
structure Libraries where
  /-- Reads the text of a configuration. -/
  readConfig : String → Except String Config
  /-- Reads the text of a tree. -/
  readTree : String → Except String Tree
  /-- Reads the text of a snapshot. -/
  readSnapshot : String → Except String Snapshot
  /-- Writes a snapshot as a text. -/
  writeSnapshot : Snapshot → Except String String
  /-- Breaks a text into lines of so many columns at most, where it can be broken. -/
  fill : Nat → String → String

end Storyline.Play
