import Storyline.Store.Basic

/-!
# Writes to a store

What can be done to a store, as data: a value under a key, or other contents for all keys at once.
-/

namespace Storyline

/-- Something that is done to a store. -/
inductive Write where
  | setInt (key : String) (value : Int32)
  | addInt (key : String) (delta : Int32)
  | setBool (key : String) (value : Bool)
  | toggleBool (key : String)
  | setFloat (key : String) (value : Binary64)
  | setString (key : String) (value : String)
  /-- Goes back to the seeds. -/
  | reset
  /-- Takes over saved values. -/
  | restore (saved : Contents)
  deriving DecidableEq

/-- Does something to a store. -/
def Store.perform (s : Store) : Write → Told Change Store
  | .setInt key value => s.setInt key value
  | .addInt key delta => s.addInt key delta
  | .setBool key value => s.setBool key value
  | .toggleBool key => s.toggleBool key
  | .setFloat key value => s.setFloat key value
  | .setString key value => s.setString key value
  | .reset => s.reset
  | .restore saved => s.restore saved

end Storyline
