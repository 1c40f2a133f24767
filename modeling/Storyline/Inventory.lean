import Storyline.Numeral
import Storyline.Signal
import Storyline.Text.AsciiCase

/-!
# The player's items

Items are held in the order in which they were granted. Two names that differ only in the case of
ASCII letters name the same item, and an item that is held already is not granted again.
-/

namespace Storyline

/-- The items that a player holds. -/
structure Inventory where
  /-- Their names, in the order in which they were granted. -/
  items : List String := []
  deriving DecidableEq, Inhabited

namespace Inventory

variable (inv : Inventory)

/-- Whether an item is held. -/
def contains (item : String) : Bool := inv.items.any (Text.sameText · item)

/-- Grants an item, unless it is held already. -/
def add {α : Type} (item : String) : Told α Inventory :=
  if inv.contains item then do
    Told.log .info ("player already holds '" ++ item ++ "'")
    pure inv
  else pure ⟨inv.items ++ [item]⟩

/-- Takes an item away; the answer says whether it was held. -/
def remove (item : String) : Bool × Inventory :=
  (inv.contains item, ⟨inv.items.eraseP (Text.sameText · item)⟩)

end Inventory

end Storyline
