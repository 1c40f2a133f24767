/-!
# Listeners

A registry holds listeners in the order of their subscription. Each gets an identifier that is
never given again, even after it has left; a notice goes to every listener present, in that order.
-/

namespace Storyline

/-- The listeners present, and the next identifier. -/
structure Registry (τ : Type) where
  /-- The listeners with their identifiers, in the order of their subscription. -/
  listeners : List (Nat × τ) := []
  /-- The identifier of the next one. -/
  next : Nat := 0

namespace Registry

variable {τ α : Type} (r : Registry τ)

/-- Adds a listener; the answer is its identifier. -/
def subscribe (listener : τ) : Nat × Registry τ :=
  (r.next, ⟨r.listeners ++ [(r.next, listener)], r.next + 1⟩)

/-- Removes a listener; the answer says whether there was one with this identifier. -/
def unsubscribe (id : Nat) : Bool × Registry τ :=
  (r.listeners.any (·.1 == id), { r with listeners := r.listeners.filter (·.1 != id) })

/-- Who hears a notice, with the notice itself, in the order in which they hear it. -/
def deliveries (a : α) : List (τ × α) := r.listeners.map fun l ↦ (l.2, a)

end Registry

end Storyline
