import Storyline.Audience
import Storyline.Proofs.Session.Run
import Storyline.Proofs.Store.Observer

/-!
# What a listener of the store knows

A listener that takes over the contents of a snapshot, and from then on puts every change that it
hears of in its own maps, reads at every moment what the store reads
(`Session.observer_reads`). It does not matter by what the store is changed: whatever an operation
does to it are writes (`Engine.writes_perform`), and an observer stays in step through writes.
-/

namespace Storyline

/-! ### Hearing -/

section

variable {τ : Type} [DecidableEq τ] (listener : τ)

/-- How often a listener is subscribed. -/
def Registry.subscriptions (r : Registry τ) : Nat := r.listeners.countP (·.2 = listener)

/-- The change that a listener hears of, where it does. -/
def Heard.changeFor? : Heard τ → Option Change
  | .change l c => if l = listener then some c else none
  | .record _ | .event _ _ => none

/-- The changes among signals, as a listener hears of them. -/
def Audience.changesFor (a : Audience τ) (signals : List (Signal Notice)) : List Change :=
  (a.hear signals).filterMap (Heard.changeFor? listener)

/-- Of one change a listener hears as often as it is subscribed. -/
theorem Audience.changesFor_notice (a : Audience τ) (c : Change) :
    (a.hearOne (.notice (.change c))).filterMap (Heard.changeFor? listener) =
      List.replicate (a.store.subscriptions listener) c := by
  rw [hearOne, Registry.deliveries, Registry.subscriptions]
  induction a.store.listeners with
  | nil => rfl
  | cons l ls ih =>
    rw [List.map_cons, List.map_cons, List.filterMap_cons, List.countP_cons, ih]
    by_cases hl : l.2 = listener
    · simp [Heard.changeFor?, hl, List.replicate_succ]
    · simp [Heard.changeFor?, hl]

/-- A listener hears of each change as often as it is subscribed, and then of the next. -/
theorem Audience.changesFor_signals {β : Type} (a : Audience τ) (x : Told Notice β) :
    a.changesFor listener x.signals =
      (changesOf x.notices).flatMap (List.replicate (a.store.subscriptions listener)) := by
  rw [changesFor, hear, changesOf, Told.notices, List.filterMap_flatMap, List.filterMap_filterMap]
  induction x.signals with
  | nil => rfl
  | cons s ss ih =>
    rw [List.flatMap_cons, List.filterMap_cons, ih]
    rcases s with r | c | event
    · rfl
    · rw [a.changesFor_notice]
      rfl
    · have hevent : (a.hearOne (.notice (.event event))).filterMap
          (Heard.changeFor? listener) = [] := by
        rw [hearOne, List.filterMap_map, List.filterMap_eq_nil_iff]
        exact fun _ _ ↦ rfl
      rw [hevent]
      rfl

/-- With one subscription, it hears of each change that is announced, once and in order. -/
theorem Audience.changesFor_of_once {a : Audience τ} {listener : τ}
    (h : a.store.subscriptions listener = 1) {β : Type} (x : Told Notice β) :
    a.changesFor listener x.signals = changesOf x.notices := by
  have honce : (List.replicate 1 : Change → List Change) = fun c ↦ [c] := rfl
  rw [changesFor_signals, h, honce, List.flatMap_singleton']

end

/-- The change that is heard of, where one is. -/
def Heard.change? {τ : Type} : Heard τ → Option Change
  | .record _ => none
  | .change _ c => some c
  | .event _ _ => none

/-- An audience of one listener of the store. -/
def loneObserver : Audience Unit where
  store := (Registry.subscribe {} ()).2

/-- The changes among signals, as the lone listener of the store hears of them. -/
def heardChanges (signals : List (Signal Notice)) : List Change :=
  (loneObserver.hear signals).filterMap Heard.change?

/-- The listener hears of each change that is announced. -/
theorem heardChanges_signals {β : Type} (x : Told Notice β) :
    heardChanges x.signals = changesOf x.notices := by
  have honly : Heard.change? = Heard.changeFor? () := by
    funext h
    cases h <;> rfl
  rw [heardChanges, honly]
  exact Audience.changesFor_of_once rfl x

namespace Session

variable (x : Session)

/-- What a listener of the store has of it, if it starts with a snapshot that is taken in a
session and then hears of the changes that later operations make. -/
def observer (later : List Operation) : Contents :=
  (Snapshot.capture x.engine).store.hearAll (heardChanges (x.engine.performAll later).signals)

/-- Through any operations, a listener stays in step with the store. -/
theorem observer_inStep (later : List Operation) :
    (x.observer later).InStep (x.engine.after later).world.store.contents := by
  have hwrites := Engine.writes_after x.coherent later
  rw [observer, heardChanges_signals]
  exact hwrites.inStep x.from_seeds fun _ _ ↦ rfl

/-- What a listener of the store reads, under every key and of every kind, is what the store
reads. -/
theorem observer_reads (later : List Operation) (key : String) :
    (x.observer later).ints.readAt 0 key = (x.engine.after later).world.store.getInt key ∧
      (x.observer later).bools.readAt false key =
        (x.engine.after later).world.store.getBool key ∧
      (x.observer later).floats.readAt .zero key =
        (x.engine.after later).world.store.getFloat key ∧
      (x.observer later).strings.readAt "" key =
        (x.engine.after later).world.store.getString key :=
  (x.observer_inStep later).readAt key

/-- A variable that a reset removes has been announced, so it is not read any more. -/
example : (observer { ops := [.write (.setInt " Courage" 7)] } [.write .reset]).ints.readAt 0
    "courage" = 0 := by
  decide +kernel

end Session

end Storyline
