import Storyline.Schedule.Agenda

/-!
# Calls of a schedule

Everything that can be asked of a schedule, as data, with the answers. An agenda answers the same
calls, so that runs of the two can be compared call by call (`exchanges`).
-/

namespace Storyline

namespace Schedule

/-- Something that is asked of a schedule. -/
inductive Call (τ : Type) where
  /-- Schedules a task to come due after a delay. -/
  | scheduleIn (delay : Duration) (task : τ) (note : Option String)
  /-- Cancels a task. -/
  | cancel (handle : Nat)
  /-- Whether a task still waits. -/
  | isPending (handle : Nat)
  /-- Moves the clock forward. -/
  | advance (elapsed : Duration)
  /-- Takes out the next task that has come due. -/
  | popDue
  /-- The number of tasks that wait. -/
  | size
  /-- Whether none waits. -/
  | isEmpty
  /-- The time on the clock. -/
  | now
  deriving DecidableEq

/-- The answer to a call. -/
inductive Answer (τ : Type) where
  /-- The handle of a new task. -/
  | handle (handle : Nat)
  /-- Yes or no. -/
  | truth (b : Bool)
  /-- It was carried out. -/
  | done
  /-- The task that came out, under its handle. -/
  | popped (entry : Option (Nat × Deferred τ))
  /-- So many tasks. -/
  | count (n : Nat)
  /-- This time. -/
  | time (t : Duration)
  deriving DecidableEq

variable {τ : Type}

/-- Answers a call, with `limit` stale places tolerated. -/
def answer (limit : Nat) (s : Schedule τ) : Call τ → Answer τ × Schedule τ
  | .scheduleIn delay task note =>
    let (handle, s) := (s.scheduleIn delay task note : Told Empty (Nat × Schedule τ)).value
    (.handle handle, s)
  | .cancel handle =>
    let (was, s) := (s.cancelWithin limit handle : Told Empty (Bool × Schedule τ)).value
    (.truth was, s)
  | .isPending handle => (.truth (s.isPending handle), s)
  | .advance elapsed => (.done, s.advance elapsed)
  | .popDue =>
    let (entry, s) := s.popDue
    (.popped entry, s)
  | .size => (.count s.size, s)
  | .isEmpty => (.truth s.isEmpty, s)
  | .now => (.time s.now, s)

/-! ### Runs -/

/-- A call with its answer. -/
abbrev Exchange (τ : Type) := Call τ × Answer τ

/-- The handle of the task that began to wait. -/
def Exchange.began? : Exchange τ → Option Nat
  | (.scheduleIn _ _ _, .handle handle) => some handle
  | _ => none

/-- The handle of the task that waits no more: it was cancelled, or it came out. -/
def Exchange.ceased? : Exchange τ → Option Nat
  | (.cancel handle, .truth true) => some handle
  | (.popDue, .popped (some entry)) => some entry.1
  | _ => none

/-- The handles of the tasks that began to wait, the first first. -/
def began (es : List (Exchange τ)) : List Nat := es.filterMap Exchange.began?

/-- The handles of the tasks that wait no more, in the order in which they ceased to. -/
def ceased (es : List (Exchange τ)) : List Nat := es.filterMap Exchange.ceased?

section Runs

variable {σ : Type} (answer : σ → Call τ → Answer τ × σ)

/-- Calls with their answers, made one after the other. -/
def exchanges (s : σ) : List (Call τ) → List (Exchange τ)
  | [] => []
  | c :: cs => (c, (answer s c).1) :: exchanges (answer s c).2 cs

/-- What calls leave. -/
def stateAfter (s : σ) (cs : List (Call τ)) : σ := cs.foldl (fun s c ↦ (answer s c).2) s

end Runs

end Schedule

/-- Answers a call from the plain list of tasks. -/
def Agenda.answer {τ : Type} (a : Agenda τ) :
    Schedule.Call τ → Schedule.Answer τ × Agenda τ
  | .scheduleIn delay task note =>
    let (handle, a) := a.scheduleIn delay task note
    (.handle handle, a)
  | .cancel handle =>
    let (was, a) := a.cancel handle
    (.truth was, a)
  | .isPending handle => (.truth (a.isPending handle), a)
  | .advance elapsed => (.done, a.advance elapsed)
  | .popDue =>
    let (entry, a) := a.popDue
    (.popped entry, a)
  | .size => (.count a.size, a)
  | .isEmpty => (.truth a.isEmpty, a)
  | .now => (.time a.now, a)

end Storyline
