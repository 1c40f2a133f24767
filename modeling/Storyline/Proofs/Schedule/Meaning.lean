import Storyline.Proofs.Schedule.Agenda

/-!
# What a schedule means

A schedule holds its live tasks twice, in a table and in a queue that lags behind; the agenda that
it stands for is the table alone. Each call gives the same answer on both, and leaves a schedule
that stands for the agenda left by the call (`Schedule.answer_agenda`). So nothing that is asked of
a schedule shows its queue, how many stale places it tolerates, or when it sweeps them out
(`Schedule.exchanges_eq_agenda`).
-/

namespace Storyline

namespace Schedule

variable {τ : Type} {s : Schedule τ}

/-! ### Reading the table -/

/-- The same handles are pending in a schedule and in its agenda. -/
theorem isPending_agenda (s : Schedule τ) (handle : Nat) :
    s.agenda.isPending handle = s.isPending handle := by
  rw [Bool.eq_iff_iff, Agenda.isPending_iff, isPending, find?, List.lookup_isSome_iff]
  simp only [agenda, beq_iff_eq]
  exact exists_congr fun e ↦ and_congr_right fun _ ↦ eq_comm

/-- A task is found under its handle if the agenda has it as an entry. -/
theorem find?_eq_some_iff (h : s.agenda.Orderly) {handle : Nat} {t : Deferred τ} :
    s.find? handle = some t ↔ (handle, t) ∈ s.live := by
  constructor
  · intro hfind
    obtain ⟨before, behind, hlive, -⟩ := List.lookup_eq_some_iff.mp hfind
    simp [hlive]
  · intro hmem
    -- the table has an entry for the handle, and it can be no other
    have hpending : s.isPending handle = true := by
      rw [← isPending_agenda, Agenda.isPending_iff]
      exact ⟨_, hmem, rfl⟩
    obtain ⟨u, hu⟩ := Option.isSome_iff_exists.mp hpending
    obtain ⟨before, behind, hlive, -⟩ := List.lookup_eq_some_iff.mp hu
    have hmem' : (handle, u) ∈ s.agenda.entries := by simp [agenda, hlive]
    rw [hu, (Prod.mk.inj (h.eq_of_handle_eq hmem hmem' rfl)).2]

/-! ### One call -/

/-- Calls keep a schedule sound. -/
theorem Sound.answer (h : s.Sound) (limit : Nat) (c : Call τ) : (s.answer limit c).2.Sound := by
  cases c with
  | scheduleIn delay task note => exact h.scheduleIn (α := Empty) delay task note
  | cancel handle => exact h.cancelWithin (α := Empty) limit handle
  | advance elapsed => exact h.advance elapsed
  | popDue =>
    show s.popDue.2.Sound
    rcases popDue_cases h with ⟨handle, t, queue, -, -, -, -, hsound⟩ | ⟨queue, -, -, hsound⟩
    · exact hsound
    · exact hsound
  | _ => exact h

/-- Cancelling a task does the same to the agenda, and gives the same answer. -/
theorem cancel_agenda (s : Schedule τ) (limit handle : Nat) :
    s.agenda.cancel handle =
      ((s.cancelWithin limit handle : Told Empty (Bool × Schedule τ)).value.1,
        (s.cancelWithin limit handle : Told Empty (Bool × Schedule τ)).value.2.agenda) := by
  have hanswer : (s.cancelWithin limit handle : Told Empty (Bool × Schedule τ)).value.1 =
      s.isPending handle := by
    rw [cancelWithin, isPending]
    rcases s.find? handle with - | t <;> rfl
  have hlive : s.live.filter (·.1 != handle) =
      if s.isPending handle then s.live.filter (·.1 != handle) else s.live := by
    split
    · rfl
    · -- there is nothing to filter out
      rename_i hpending
      refine List.filter_eq_self.mpr fun e he ↦ bne_iff_ne.mpr fun heq ↦ hpending ?_
      rw [← isPending_agenda, Agenda.isPending_iff]
      exact ⟨e, he, heq⟩
  have hafter : (s.cancelWithin limit handle : Told Empty (Bool × Schedule τ)).value.2.agenda =
      ⟨s.now, s.live.filter (·.1 != handle), s.next⟩ := by
    rw [agenda, live_cancelWithin, now_cancelWithin, next_cancelWithin, ← hlive]
  rw [Agenda.cancel, isPending_agenda, hanswer, hafter]
  rfl

/-- The task that comes due first is the one that the agenda takes out. -/
theorem popDue_agenda (hs : s.Sound) (ha : s.agenda.Orderly) :
    s.agenda.popDue = (s.popDue.1, s.popDue.2.agenda) := by
  rcases popDue_cases hs with
    ⟨handle, t, queue, hfind, hdue, -, hpop, -⟩ | ⟨queue, hpop, hall, -⟩
  · -- the task that comes out of the queue is the first of the agenda
    have hfirst : s.agenda.first? = some (handle, t) := by
      refine (Agenda.first?_eq_some_iff ha).mpr ⟨(find?_eq_some_iff ha).mp hfind, ?_⟩
      intro f hf hne
      exact before_of_popDue hs (by rw [hpop]) ((find?_eq_some_iff ha).mpr hf) hne
    rw [Agenda.popDue, hfirst, hpop]
    exact if_neg hdue
  · rw [Agenda.popDue, hpop]
    rcases hfirst : s.agenda.first? with - | e
    · rfl
    · have hmem := ((Agenda.first?_eq_some_iff ha).mp hfirst).1
      exact if_pos (hall e.1 e.2 ((find?_eq_some_iff ha).mpr hmem))

/-- A call is answered from the agenda that a schedule stands for, and leaves a schedule that
stands for the agenda that is left. -/
theorem answer_agenda (hs : s.Sound) (ha : s.agenda.Orderly) (limit : Nat) (c : Call τ) :
    s.agenda.answer c = ((s.answer limit c).1, (s.answer limit c).2.agenda) := by
  cases c with
  | cancel handle => rw [Agenda.answer, cancel_agenda s limit handle]; rfl
  | popDue => rw [Agenda.answer, popDue_agenda hs ha]; rfl
  | isPending handle => rw [Agenda.answer, isPending_agenda]; rfl
  | _ => rfl

/-- Calls keep the agenda of a schedule in order. -/
theorem orderly_answer (hs : s.Sound) (ha : s.agenda.Orderly) (limit : Nat) (c : Call τ) :
    (s.answer limit c).2.agenda.Orderly := by
  have h := ha.answer c
  rwa [answer_agenda hs ha limit c] at h

/-! ### Runs of calls -/

/-- Call after call, a schedule answers as its agenda does. -/
theorem exchanges_agenda (hs : s.Sound) (ha : s.agenda.Orderly) (limit : Nat)
    (calls : List (Call τ)) :
    exchanges (answer limit) s calls = exchanges Agenda.answer s.agenda calls ∧
      (stateAfter (answer limit) s calls).agenda = stateAfter Agenda.answer s.agenda calls := by
  induction calls generalizing s with
  | nil => exact ⟨rfl, rfl⟩
  | cons c cs ih =>
    have hanswer := answer_agenda hs ha limit c
    obtain ⟨hexchanges, hafter⟩ := ih (hs.answer limit c) (orderly_answer hs ha limit c)
    constructor
    · rw [exchanges, exchanges, hanswer, hexchanges]
    · rw [stateAfter, stateAfter, List.foldl_cons, List.foldl_cons, hanswer]
      exact hafter

/-- Whatever is asked of a schedule, each answer is that of the plain list of tasks, however many
stale places are tolerated. What waits in the end is what was scheduled and has neither been
cancelled nor come out, and no task is cancelled or comes out twice. -/
theorem exchanges_eq_agenda (limit : Nat) (calls : List (Call τ)) :
    exchanges (answer limit) ({} : Schedule τ) calls =
        exchanges Agenda.answer ({} : Agenda τ) calls ∧
      (ceased (exchanges (answer limit) ({} : Schedule τ) calls)).Nodup ∧
      ∀ handle, (stateAfter (answer limit) ({} : Schedule τ) calls).isPending handle = true ↔
        handle ∈ began (exchanges (answer limit) ({} : Schedule τ) calls) ∧
          handle ∉ ceased (exchanges (answer limit) ({} : Schedule τ) calls) := by
  obtain ⟨hexchanges, hafter⟩ :=
    exchanges_agenda (s := {}) sound_empty Agenda.orderly_empty limit calls
  have hempty : (({} : Schedule τ).agenda) = {} := rfl
  rw [hempty] at hexchanges hafter
  refine ⟨hexchanges, ?_, fun handle ↦ ?_⟩
  · rw [hexchanges]
    exact Agenda.nodup_ceased Agenda.orderly_empty calls
  · rw [← isPending_agenda, hafter, hexchanges,
      Agenda.isPending_stateAfter Agenda.orderly_empty calls handle]
    simp [Agenda.isPending]

end Schedule

end Storyline
