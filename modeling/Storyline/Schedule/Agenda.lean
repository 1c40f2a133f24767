import Storyline.Schedule.Basic

/-!
# The plain list of tasks

An agenda is what a schedule stands for: the clock and the live tasks, nothing else. Cancelling
deletes an entry, and the next task is the one with the least due time, then the least handle. It
serves as the meaning of `Schedule`, whose queue and sweeping must not show in any answer.
-/

namespace Storyline

/-- A clock with the tasks that wait on it, in the order in which they were scheduled. -/
structure Agenda (τ : Type) where
  /-- The time on the clock. -/
  now : Duration := .zero
  /-- The tasks under their handles. -/
  entries : List (Nat × Deferred τ) := []
  /-- The next handle. -/
  next : Nat := 0

namespace Agenda

variable {τ : Type} (a : Agenda τ)

/-- Whether a task still waits. -/
def isPending (handle : Nat) : Bool := a.entries.any (·.1 == handle)

/-- The number of tasks that wait. -/
def size : Nat := a.entries.length

/-- Whether no task waits. -/
def isEmpty : Bool := a.entries.isEmpty

/-- Adds a task that comes due after a delay; the answer is its handle. -/
def scheduleIn (delay : Duration) (task : τ) (note : Option String) : Nat × Agenda τ :=
  (a.next, { a with
    entries := a.entries ++ [(a.next, ⟨a.now + delay, task, note⟩)]
    next := a.next + 1 })

/-- Deletes a task; the answer says whether it was still waiting. -/
def cancel (handle : Nat) : Bool × Agenda τ :=
  (a.isPending handle, { a with entries := a.entries.filter (·.1 != handle) })

/-- Moves the clock forward. -/
def advance (elapsed : Duration) : Agenda τ := { a with now := a.now + elapsed }

/-- The earlier of two entries: by due time, then by handle. -/
def earlier (e f : Nat × Deferred τ) : Nat × Deferred τ :=
  if Place.before (f.2.due, f.1) (e.2.due, e.1) then f else e

/-- The entry that comes due first. -/
def first? : Option (Nat × Deferred τ) :=
  match a.entries with
  | [] => none
  | e :: es => some (es.foldl earlier e)

/-- Takes out the entry that comes due first, if its time has come. -/
def popDue : Option (Nat × Deferred τ) × Agenda τ :=
  match a.first? with
  | some e =>
    if a.now < e.2.due then (none, a)
    else (some e, { a with entries := a.entries.filter (·.1 != e.1) })
  | none => (none, a)

end Agenda

/-- The agenda that a schedule stands for. -/
def Schedule.agenda {τ : Type} (s : Schedule τ) : Agenda τ := ⟨s.now, s.live, s.next⟩

end Storyline
