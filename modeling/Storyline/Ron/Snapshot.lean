import Storyline.Ron.Reader
import Storyline.Ron.Writer
import Storyline.Saved.Snapshot

/-!
# Snapshots in RON

`Snapshot.toText` writes a snapshot in RON, and `Snapshot.ofText?` reads one. A file may leave out
everything but the version; where it has a store or an inventory, all of their fields have to be
there. A map that has a key twice keeps the last value.
-/

namespace Storyline

/-! ### Writing -/

/-- Writes the values of a store. -/
def Contents.writer : Ron.Writer Contents := fun c ↦
  Ron.Writer.record
    [("ints", Ron.Writer.map Ron.Writer.int32 c.ints),
      ("bools", Ron.Writer.map Ron.Writer.bool c.bools),
      ("floats", Ron.Writer.map Ron.Writer.float c.floats),
      ("strings", Ron.Writer.map Ron.Writer.string c.strings)]

/-- Writes the player's items. -/
def Inventory.writer : Ron.Writer Inventory := fun i ↦
  Ron.Writer.record [("items", Ron.Writer.list Ron.Writer.string i.items)]

/-- Writes a snapshot. -/
def Snapshot.writer : Ron.Writer Snapshot := fun s ↦
  Ron.Writer.record
    [("version", Ron.Writer.string s.version),
      ("tree_id", Ron.Writer.option Ron.Writer.string s.treeId),
      ("node_id", Ron.Writer.option Ron.Writer.string s.nodeId),
      ("store", Contents.writer s.store),
      ("inventory", Inventory.writer s.inventory)]

/-- A snapshot as the text of a file. -/
def Snapshot.toText (s : Snapshot) : String := Snapshot.writer s 0

/-! ### Reading -/

/-- The values of a store as far as they have been read. -/
structure ContentsFields where
  /-- The integers. -/
  ints : Option (KeyMap Int32) := none
  /-- The switches. -/
  bools : Option (KeyMap Bool) := none
  /-- The numbers. -/
  floats : Option (KeyMap Binary64) := none
  /-- The texts. -/
  strings : Option (KeyMap String) := none

/-- Reads the values of a store. -/
def Contents.reader : Ron.Reader Contents :=
  Ron.record "StoreSnapshot"
    [("ints", Ron.field (Ron.map Ron.int32) ContentsFields.ints fun v s ↦ { s with ints := v }),
      ("bools", Ron.field (Ron.map Ron.bool) ContentsFields.bools fun v s ↦ { s with bools := v }),
      ("floats", Ron.field (Ron.map Ron.float64) ContentsFields.floats
        fun v s ↦ { s with floats := v }),
      ("strings", Ron.field (Ron.map Ron.string) ContentsFields.strings
        fun v s ↦ { s with strings := v })]
    {} fun s ↦ do
      pure { ints := ← s.ints, bools := ← s.bools, floats := ← s.floats, strings := ← s.strings }

/-- Reads the player's items. -/
def Inventory.reader : Ron.Reader Inventory :=
  Ron.record "PlayerInventory"
    [("items", Ron.field (Ron.list Ron.string) id fun v _ ↦ some v)]
    none fun items ↦ items.map Inventory.mk

/-- A snapshot as far as it has been read. -/
structure SnapshotFields where
  /-- The version. -/
  version : Option String := none
  /-- The tree. -/
  treeId : Option (Option String) := none
  /-- The node. -/
  nodeId : Option (Option String) := none
  /-- The values of the store. -/
  store : Option Contents := none
  /-- The items. -/
  inventory : Option Inventory := none

/-- Reads a snapshot. -/
def Snapshot.reader : Ron.Reader Snapshot :=
  Ron.record "SessionSnapshot"
    [("version", Ron.field Ron.string SnapshotFields.version fun v s ↦ { s with version := v }),
      ("tree_id", Ron.field (Ron.option Ron.string) SnapshotFields.treeId
        fun v s ↦ { s with treeId := some v }),
      ("node_id", Ron.field (Ron.option Ron.string) SnapshotFields.nodeId
        fun v s ↦ { s with nodeId := some v }),
      ("store", Ron.field Contents.reader SnapshotFields.store fun v s ↦ { s with store := v }),
      ("inventory", Ron.field Inventory.reader SnapshotFields.inventory
        fun v s ↦ { s with inventory := v })]
    {} fun s ↦ do
      pure
        { version := ← s.version, treeId := s.treeId.getD none, nodeId := s.nodeId.getD none
          store := s.store.getD {}, inventory := s.inventory.getD {} }

/-- Reads a snapshot from the text of a file. -/
def Snapshot.ofText? (text : String) : Option Snapshot := Ron.document Snapshot.reader text

end Storyline
