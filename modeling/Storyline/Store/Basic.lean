import Storyline.Binary.Text
import Storyline.KeyMap
import Storyline.Signal
import Storyline.Store.Key
import Storyline.Text.Quoted

/-!
# The store of variables

A store holds variables of four kinds (integers, switches, numbers and texts) in four separate
maps; a key may be used in all of them. An absent variable reads as `0`, `false`, `0.0` or the
empty text. Integers are held within *bounds*: every rule for a key is applied in turn to a value
before it is kept, the built-in one for `sanity` first.

Every write goes through the key's normal form and announces the value that was kept, once it is
kept. Raw values, under keys in any spelling, go into a store in bulk in two ways: a new store is
seeded (`Store.seed`), and a store that is reset or takes over a saved game is cleared and filled
anew (`Store.refill`), whereupon it announces every key that was or is now present.
-/

namespace Storyline

/-- The variables of a store, or values for them under keys in any spelling. -/
structure Contents where
  /-- The integers. -/
  ints : KeyMap Int32 := .empty
  /-- The switches. -/
  bools : KeyMap Bool := .empty
  /-- The numbers. -/
  floats : KeyMap Binary64 := .empty
  /-- The texts. -/
  strings : KeyMap String := .empty
  deriving DecidableEq, Inhabited

/-- The number of values. -/
def Contents.size (c : Contents) : Nat :=
  c.ints.size + c.bools.size + c.floats.size + c.strings.size

/-- Inclusive bounds for an integer variable. -/
structure Bounds where
  /-- The variable. -/
  key : String
  /-- The least value. -/
  min : Int32
  /-- The greatest value. -/
  max : Int32
  deriving DecidableEq

namespace Bounds

/-- The nearest value within the bounds, for bounds in the right order. -/
def clamp (b : Bounds) (value : Int32) : Int32 :=
  if value < b.min then b.min else if b.max < value then b.max else value

/-- The built-in bounds of the variable `sanity`. -/
def sanity : Bounds := ⟨"sanity", 0, 100⟩

/-- The bounds under the normal form of their key; none if the key is blank or the ends are in the
wrong order. -/
def normalize? (b : Bounds) : Option Bounds :=
  match normalizeKey? b.key with
  | some key => if b.min ≤ b.max then some { b with key } else none
  | none => none

/-- The bounds as a log record shows them. -/
def describe (b : Bounds) : String :=
  "ClampRule \x7b key: " ++ Text.quote b.key ++ ", min: " ++ Numeral.plain b.min.toInt ++
    ", max: " ++ Numeral.plain b.max.toInt ++ " \x7d"

end Bounds

/-- Applies the rules for a key to a value, one after the other. -/
def clampBy (rules : List Bounds) (key : String) (value : Int32) : Int32 :=
  (rules.filter (·.key = key)).foldl (fun v b ↦ b.clamp v) value

/-- What a new store starts from. -/
structure Seeds where
  /-- The values, under keys in any spelling. -/
  contents : Contents := {}
  /-- Bounds in addition to the built-in ones. -/
  bounds : List Bounds := []
  deriving DecidableEq

/-- The seeds of a game that sets none: full sanity. -/
def Seeds.standard : Seeds where
  contents := { ints := KeyMap.empty.insert "sanity" 100 }

/-- A value that was kept, with its key in normal form. -/
inductive Change where
  | int (key : String) (value : Int32)
  | bool (key : String) (value : Bool)
  | float (key : String) (value : Binary64)
  | text (key : String) (value : String)
  deriving DecidableEq

/-- A change as a log record shows it. -/
def Change.describe : Change → String
  | .int key value => fields "Int" key (Numeral.plain value.toInt)
  | .bool key value => fields "Bool" key (if value then "true" else "false")
  | .float key value => fields "Float" key (value.text .logged)
  | .text key value => fields "Str" key (Text.quote value)
where
  /-- The name of a kind of change with its two fields. -/
  fields (kind key value : String) : String :=
    kind ++ " \x7b key: " ++ Text.quote key ++ ", value: " ++ value ++ " \x7d"

/-- Puts raw values into a map, one after the other: each goes under the normal form of its key,
over what stood there, and those under blank keys are left out. -/
def KeyMap.fill {α : Type} (m : KeyMap α) (keep : String → α → α) (raw : KeyMap α) : KeyMap α :=
  raw.entries.foldl (fun m e ↦
    match normalizeKey? e.1 with
    | some key => m.insert key (keep key e.2)
    | none => m) m

/-- A store of variables. -/
structure Store where
  /-- The values, under normal keys. -/
  contents : Contents
  /-- What a reset goes back to. -/
  seeds : Seeds
  /-- The bounds in force, in the order in which they apply. -/
  rules : List Bounds
  deriving DecidableEq

namespace Store

/-! ### A new store -/

/-- The rules that seeds put in force: the built-in one, then the well-formed ones of the seeds.
The others are logged. -/
def rulesOf {α : Type} (bounds : List Bounds) : Told α (List Bounds) :=
  bounds.foldlM (fun rules b ↦
    match b.normalize? with
    | some rule => pure (rules ++ [rule])
    | none => do
      Told.log .warn ("ignoring malformed clamp rule " ++ b.describe)
      pure rules) [Bounds.sanity]

/-- Puts the seeds into a store, beside the values that it has. -/
def seed (s : Store) : Store :=
  let raw := s.seeds.contents
  { s with
    contents.ints := s.contents.ints.fill (clampBy s.rules) raw.ints
    contents.bools := s.contents.bools.fill (fun _ v ↦ v) raw.bools
    contents.floats := s.contents.floats.fill (fun _ v ↦ v) raw.floats
    contents.strings := s.contents.strings.fill (fun _ v ↦ v) raw.strings }

/-- The store that starts from the given seeds. -/
def ofSeeds {α : Type} (seeds : Seeds) : Told α Store := do
  let rules ← rulesOf seeds.bounds
  let s := seed { contents := {}, seeds, rules }
  Told.log .info
    ("variable store created with " ++ Numeral.decimal s.contents.size ++ " seeded keys")
  pure s

/-! ### Reading -/

variable (s : Store)

/-- The value of an integer variable. -/
def getInt (key : String) : Int32 := ((normalizeKey? key).bind s.contents.ints.get?).getD 0

/-- The value of a switch. -/
def getBool (key : String) : Bool := ((normalizeKey? key).bind s.contents.bools.get?).getD false

/-- The value of a number. -/
def getFloat (key : String) : Binary64 :=
  ((normalizeKey? key).bind s.contents.floats.get?).getD .zero

/-- The value of a text. -/
def getString (key : String) : String :=
  ((normalizeKey? key).bind s.contents.strings.get?).getD ""

/-! ### Writing -/

/-- Logs a change and announces it. -/
def announce (change : Change) : Told Change Unit := do
  Told.log .debug ("store change: " ++ change.describe)
  Told.notify change

/-- Writes under the normal form of a key; a write under a blank key is logged and has no
effect. -/
def writeAt (kind key : String) (write : String → Told Change Store) : Told Change Store :=
  match normalizeKey? key with
  | some key => write key
  | none => do
    Told.log .warn ("ignoring " ++ kind ++ " write with a blank key")
    pure s

/-- Keeps an integer within its bounds. -/
def setInt (key : String) (value : Int32) : Told Change Store :=
  s.writeAt "int" key fun key ↦ do
    let value := clampBy s.rules key value
    announce (.int key value)
    pure { s with contents := { s.contents with ints := s.contents.ints.insert key value } }

/-- Adds to an integer, stopping at the ends of the 32-bit range before the bounds apply. -/
def addInt (key : String) (delta : Int32) : Told Change Store :=
  s.setInt key (saturatingAdd (s.getInt key) delta)

/-- Keeps a switch. -/
def setBool (key : String) (value : Bool) : Told Change Store :=
  s.writeAt "bool" key fun key ↦ do
    announce (.bool key value)
    pure { s with contents := { s.contents with bools := s.contents.bools.insert key value } }

/-- Turns a switch over. -/
def toggleBool (key : String) : Told Change Store := s.setBool key (!s.getBool key)

/-- Keeps a number. -/
def setFloat (key : String) (value : Binary64) : Told Change Store :=
  s.writeAt "float" key fun key ↦ do
    announce (.float key value)
    pure { s with contents := { s.contents with floats := s.contents.floats.insert key value } }

/-- Keeps a text. -/
def setString (key : String) (value : String) : Told Change Store :=
  s.writeAt "string" key fun key ↦ do
    announce (.text key value)
    pure { s with contents := { s.contents with strings := s.contents.strings.insert key value } }

/-! ### Replacing the contents -/

/-- The keys present before a replacement or named by the new values, in ascending order. -/
def touchedKeys {α : Type} (old raw : KeyMap α) : List String :=
  KeyMap.unionKeys old.keys (raw.keys.filterMap normalizeKey?)

/-- The changes that a replacement announces: every touched key with the value that it has
afterwards, integers first, then switches, numbers and texts. -/
def replacementChanges (old raw : Contents) (after : Store) : List Change :=
  (touchedKeys old.ints raw.ints).map (fun k ↦ .int k (after.getInt k)) ++
  (touchedKeys old.bools raw.bools).map (fun k ↦ .bool k (after.getBool k)) ++
  (touchedKeys old.floats raw.floats).map (fun k ↦ .float k (after.getFloat k)) ++
  (touchedKeys old.strings raw.strings).map (fun k ↦ .text k (after.getString k))

/-- Clears a store. -/
def clear : Store := { s with contents := {} }

/-- Clears a store, and puts raw values into it. -/
def refill (raw : Contents) : Store :=
  let cleared := s.clear
  { cleared with
    contents.ints := cleared.contents.ints.fill (clampBy s.rules) raw.ints
    contents.bools := cleared.contents.bools.fill (fun _ v ↦ v) raw.bools
    contents.floats := cleared.contents.floats.fill (fun _ v ↦ v) raw.floats
    contents.strings := cleared.contents.strings.fill (fun _ v ↦ v) raw.strings }

/-- Replaces all values. -/
def replace (raw : Contents) : Told Change Store := do
  let after := s.refill raw
  for change in replacementChanges s.contents raw after do
    announce change
  pure after

/-- Goes back to the seeds. -/
def reset : Told Change Store := do
  Told.log .info "resetting variable store to defaults"
  s.replace s.seeds.contents

/-- Takes over saved values. -/
def restore (saved : Contents) : Told Change Store := do
  Told.log .info "restoring variable store from snapshot"
  s.replace saved

end Store

end Storyline
