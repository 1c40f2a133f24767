import Storyline.Config
import Storyline.Toml.Decode
import Storyline.Toml.Document

/-!
# Configurations in TOML

How configurations are read from files in TOML. Every part of a configuration may be left out.
-/

namespace Storyline

/-- The timing that an item describes. -/
def Settings.ofItem? (i : Toml.Item) : Option Settings := do
  let fields ← i.fields? ["default_display_secs"]
  let standard : Settings := {}
  pure
    { defaultDisplaySeconds :=
        ← fields.optional? "default_display_secs" Toml.Item.number? standard.defaultDisplaySeconds }

/-- The bounds that an item describes. -/
def Bounds.ofItem? (i : Toml.Item) : Option Bounds := do
  let fields ← i.fields? ["key", "min", "max"]
  pure
    { key := ← fields.required? "key" Toml.Item.text?
      min := ← fields.required? "min" Toml.Item.int32?
      max := ← fields.required? "max" Toml.Item.int32? }

/-- The seeds that an item describes. -/
def Seeds.ofItem? (i : Toml.Item) : Option Seeds := do
  let fields ← i.fields? ["ints", "bools", "floats", "strings", "clamps"]
  let standard := Seeds.standard.contents
  pure
    { contents :=
        { ints := ← fields.optional? "ints" (·.map? Toml.Item.int32?) standard.ints
          bools := ← fields.optional? "bools" (·.map? Toml.Item.bool?) standard.bools
          floats := ← fields.optional? "floats" (·.map? Toml.Item.number?) standard.floats
          strings := ← fields.optional? "strings" (·.map? Toml.Item.text?) standard.strings }
      bounds := ← fields.optional? "clamps" (·.list? Bounds.ofItem?) [] }

/-- Reads a configuration from the text of a file. -/
def Config.ofText? (text : String) : Option Config := do
  let fields ← Toml.document? text
  let settings ← fields.optional? "dialogue" Settings.ofItem? {}
  let seeds ← fields.optional? "store" Seeds.ofItem? .standard
  pure { settings, seeds }

end Storyline
