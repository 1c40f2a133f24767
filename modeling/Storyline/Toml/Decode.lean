import Storyline.Binary.Rounding
import Storyline.KeyMap
import Storyline.Toml.Item

/-!
# Values of known types in TOML

What an item is worth where a value of some type is expected. A whole number may stand for a
number with a fraction. A record is a table, of which unknown entries do not matter, or an array
that gives the fields in their order; fields that the array does not reach are missing, and what
goes beyond them does not matter.
-/

namespace Storyline.Toml

namespace Item

/-- The switch that an item is. -/
def bool? : Item → Option Bool
  | boolean b => some b
  | _ => none

/-- The text that an item is. -/
def text? : Item → Option String
  | string s => some s
  | _ => none

/-- The integer of 32 bits that an item is. -/
def int32? : Item → Option Int32
  | integer i => if -2147483648 ≤ i && i < 2147483648 then some (Int32.ofInt i) else none
  | _ => none

/-- The number that an item stands for. A number with a fraction was rounded to 64 bits first, a
whole one is rounded once. -/
def number? {f : Format} : Item → Option (Binary f)
  | integer i => some (Binary.ofRatio (i < 0) i.natAbs 1)
  | float x => some x.convert
  | _ => none

/-- The name of the only entry of a date where it is taken for a table. -/
def dateEntry : String := "$__toml_private_datetime"

/-- The entries of an item that is a table. -/
def entries? : Item → Option Entries
  | inline _ es => some es
  | table _ _ es => some es
  | datetime text => some [(dateEntry, .string text)]
  | _ => none

/-- The elements of an item that is an array. -/
def elements? : Item → Option (List Item)
  | array items => some items
  | tables elements => some (elements.map (table false false ·))
  | _ => none

/-- The elements of an array, each decoded. -/
def list? {α : Type} (decode : Item → Option α) (i : Item) : Option (List α) :=
  i.elements?.bind (·.mapM decode)

/-- The entries of a table, each decoded. -/
def map? {α : Type} (decode : Item → Option α) (i : Item) : Option (KeyMap α) :=
  i.entries?.bind (·.foldlM (fun m e ↦ (decode e.2).map (m.insert e.1 ·)) .empty)

/-- The fields of a record, of which the names are given in their order. -/
def fields? (names : List String) (i : Item) : Option Entries :=
  match i.elements? with
  | some items => some (names.zip items)
  | none => i.entries?

end Item

namespace Entries

variable {α : Type}

/-- The value of a field that has to be there. -/
def required? (fields : Entries) (name : String) (decode : Item → Option α) : Option α :=
  (fields.lookup name).bind decode

/-- The value of a field that may be missing. -/
def optional? (fields : Entries) (name : String) (decode : Item → Option α) (absent : α) :
    Option α :=
  match fields.lookup name with
  | some item => decode item
  | none => some absent

end Entries

end Storyline.Toml
