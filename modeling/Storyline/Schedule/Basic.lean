import Storyline.Duration
import Storyline.Signal
import Storyline.Text.Quoted

/-!
# Deferred tasks

A schedule keeps tasks until they come due on a clock that moves only when it is told to. Tasks
that come due at the same instant are handed out in the order in which they were scheduled.

A task is known by its *handle*, a number that is never given again. The live tasks stand in a
table; beside it a queue holds pairs of due time and handle in ascending order. Cancelling removes
a task from the table only, so its place in the queue goes stale. Stale places are skipped when a
task is asked for, and swept out once there are more than `limit` of them.
-/

namespace Storyline

/-- A task that waits for its time. -/
structure Deferred (τ : Type) where
  /-- When it comes due. -/
  due : Duration
  /-- What is to be done. -/
  task : τ
  /-- A description for the log. -/
  note : Option String
  deriving DecidableEq

/-- The description of a task in the log. -/
def Deferred.noteText {τ : Type} (t : Deferred τ) : String := t.note.getD "<no note provided>"

/-- A place in the queue: a due time and the handle of a task. -/
abbrev Place := Duration × Nat

/-- The order of places: by due time, then by handle. -/
def Place.before (a b : Place) : Bool :=
  a.1.nanos < b.1.nanos || (a.1.nanos == b.1.nanos && a.2 < b.2)

/-- A clock with the tasks that wait on it. -/
structure Schedule (τ : Type) where
  /-- The time on the clock. -/
  now : Duration := .zero
  /-- The places in ascending order, stale ones included. -/
  queue : List Place := []
  /-- The live tasks under their handles, the first scheduled first. -/
  live : List (Nat × Deferred τ) := []
  /-- The next handle. -/
  next : Nat := 0
  deriving DecidableEq

namespace Schedule

/-- How many stale places a schedule tolerates, unless told otherwise. -/
def staleLimit : Nat := 64

/-- Puts a place into an ascending queue. -/
def insertPlace (p : Place) : List Place → List Place
  | [] => [p]
  | q :: qs => if Place.before p q then p :: q :: qs else q :: insertPlace p qs

variable {τ α : Type} (s : Schedule τ)

/-- The live task with a handle. -/
def find? (handle : Nat) : Option (Deferred τ) := s.live.lookup handle

/-- Whether a task still waits. -/
def isPending (handle : Nat) : Bool := (s.find? handle).isSome

/-- The number of live tasks. -/
def size : Nat := s.live.length

/-- Whether no task is live. -/
def isEmpty : Bool := s.live.isEmpty

/-- Schedules a task to come due after a delay; the answer is its handle. -/
def scheduleIn (delay : Duration) (task : τ) (note : Option String) :
    Told α (Nat × Schedule τ) := do
  let entry : Deferred τ := ⟨s.now + delay, task, note⟩
  Told.log .info ("scheduling task (now/due = " ++ s.now.text ++ "/" ++ entry.due.text ++ "): \"" ++
    entry.noteText ++ "\"")
  pure (s.next, { s with
    queue := insertPlace (entry.due, s.next) s.queue
    live := s.live ++ [(s.next, entry)]
    next := s.next + 1 })

/-- Sweeps out the stale places if there are more than `limit` of them. -/
def sweep (limit : Nat) : Schedule τ :=
  if limit < s.queue.length - s.live.length then
    { s with queue := s.queue.filter fun p ↦ s.isPending p.2 }
  else s

/-- Cancels a task in a schedule that tolerates `limit` stale places; the answer says whether the
task was still waiting. -/
def cancelWithin (limit handle : Nat) : Told α (Bool × Schedule τ) :=
  match s.find? handle with
  | none => pure (false, s)
  | some t => do
    Told.log .debug ("cancelled task \"" ++ t.noteText ++ "\"")
    let rest : Schedule τ := { s with live := s.live.filter (·.1 != handle) }
    pure (true, rest.sweep limit)

/-- Cancels a task; the answer says whether it was still waiting. -/
def cancel (handle : Nat) : Told α (Bool × Schedule τ) := s.cancelWithin staleLimit handle

/-- Moves the clock forward, to the end of time at most. -/
def advance (elapsed : Duration) : Schedule τ := { s with now := s.now + elapsed }

/-- The first live place of a queue if it is due, and the queue without the places passed. -/
def takeDue : List Place → Option (Nat × Deferred τ) × List Place
  | [] => (none, [])
  | p :: ps =>
    match s.find? p.2 with
    | none => takeDue ps
    | some t => if s.now < p.1 then (none, p :: ps) else (some (p.2, t), ps)

/-- Takes out the next task that has come due. -/
def popDue : Option (Nat × Deferred τ) × Schedule τ :=
  match s.takeDue s.queue with
  | (some (handle, t), queue) =>
    (some (handle, t), { s with queue, live := s.live.filter (·.1 != handle) })
  | (none, queue) => (none, { s with queue })

/-- Takes out the tasks that have come due, `fuel` of them at most. -/
def drainAtMost : Nat → Schedule τ → List (Nat × Deferred τ) × Schedule τ
  | 0, s => ([], s)
  | fuel + 1, s =>
    match s.popDue with
    | (none, s) => ([], s)
    | (some t, s) =>
      let (ts, s) := drainAtMost fuel s
      (t :: ts, s)

/-- Takes out all tasks that have come due, in the order in which they did. Each of them has a
place in the queue, so there are no more of them than places. -/
def drain : List (Nat × Deferred τ) × Schedule τ := drainAtMost s.queue.length s

end Schedule

end Storyline
