import Storyline.Dialogue.Event
import Storyline.Registry

/-!
# Who hears what

Listeners of the store hear its changes, and listeners of the dialogue hear its events.
`Audience.hear` turns the signals of an operation into what is heard, in order: each log record
once, and each notice by every listener of its kind.
-/

namespace Storyline

/-- The listeners of a session. -/
structure Audience (τ : Type) where
  /-- The listeners of the store. -/
  store : Registry τ := {}
  /-- The listeners of the dialogue. -/
  dialogue : Registry τ := {}

/-- One thing heard. -/
inductive Heard (τ : Type) where
  /-- A log record. -/
  | record (r : Record)
  /-- A change, heard by a listener of the store. -/
  | change (listener : τ) (c : Change)
  /-- An event, heard by a listener of the dialogue. -/
  | event (listener : τ) (e : Event)

namespace Audience

variable {τ : Type} (a : Audience τ)

/-- What is heard of one signal. -/
def hearOne : Signal Notice → List (Heard τ)
  | .log r => [.record r]
  | .notice (.change c) => (a.store.deliveries c).map fun d ↦ .change d.1 d.2
  | .notice (.event e) => (a.dialogue.deliveries e).map fun d ↦ .event d.1 d.2

/-- What is heard of the signals of an operation. -/
def hear (signals : List (Signal Notice)) : List (Heard τ) := signals.flatMap a.hearOne

end Audience

end Storyline
