import Storyline.Proofs.Schedule.Meaning

/-!
# How far the queue lags behind

The queue of a schedule has a place for each live task and stale places besides. Stale places come
from cancelling, and it is only then that they are counted and swept out; the count is the
difference of two lengths. It is right as long as each live task has just one place
(`Schedule.length_filter_isPending`), so the two have to be kept together: `Schedule.InStep` says
that no handle has two places and that at most `limit` places are stale, and every call keeps it
(`Schedule.InStep.answer`).
-/

namespace Storyline

namespace Schedule

variable {τ : Type} {s : Schedule τ} {limit : Nat}

/-- The queue lags behind the live tasks by so many places at most. -/
structure InStep (limit : Nat) (s : Schedule τ) : Prop where
  /-- The queue and the live tasks agree. -/
  sound : s.Sound
  /-- No two live tasks have one handle. -/
  orderly : s.agenda.Orderly
  /-- No two places have one handle. -/
  places : (s.queue.map (·.2)).Nodup
  /-- The places in excess of the live tasks. -/
  lag : s.queue.length ≤ s.live.length + limit

theorem inStep_empty (limit : Nat) : ({} : Schedule τ).InStep limit where
  sound := sound_empty
  orderly := Agenda.orderly_empty
  places := .nil
  lag := Nat.zero_le _

/-! ### Places and live tasks -/

theorem isPending_iff_mem {handle : Nat} :
    s.isPending handle = true ↔ handle ∈ s.live.map (·.1) := by
  rw [← isPending_agenda, Agenda.isPending_iff, List.mem_map]
  rfl

/-- There are as many places that are not stale as there are live tasks. -/
theorem length_filter_isPending (hs : s.Sound) (ha : s.agenda.Orderly)
    (hplaces : (s.queue.map (·.2)).Nodup) :
    (s.queue.filter fun p ↦ s.isPending p.2).length = s.live.length := by
  have hnodup : ((s.queue.filter fun p ↦ s.isPending p.2).map (·.2)).Nodup :=
    hplaces.sublist (List.filter_sublist.map _)
  have hlive : (s.live.map (·.1)).Nodup := ha.distinct
  have hsame : ((s.queue.filter fun p ↦ s.isPending p.2).map (·.2)).Perm (s.live.map (·.1)) := by
    refine (List.perm_ext_iff_of_nodup hnodup hlive).mpr fun handle ↦ ?_
    rw [← isPending_iff_mem, List.mem_map]
    constructor
    · rintro ⟨p, hp, rfl⟩
      exact (List.mem_filter.mp hp).2
    · intro hpending
      obtain ⟨t, ht⟩ := Option.isSome_iff_exists.mp hpending
      exact ⟨_, List.mem_filter.mpr ⟨hs.placed handle t ht, hpending⟩, rfl⟩
  simpa using hsame.length_eq

/-- The place of a live task is the only one with its handle. -/
theorem InStep.filter_queue (h : s.InStep limit) {e : Nat × Deferred τ} (he : e ∈ s.live) :
    s.queue.filter (·.2 == e.1) = [(e.2.due, e.1)] := by
  have hplaced : (e.2.due, e.1) ∈ s.queue :=
    h.sound.placed e.1 e.2 ((find?_eq_some_iff h.orderly).mpr he)
  have hnodup : (s.queue.filter (·.2 == e.1)).Nodup :=
    (List.Nodup.of_map _ h.places).sublist List.filter_sublist
  refine List.perm_singleton.mp
    ((List.perm_ext_iff_of_nodup hnodup (List.nodup_singleton _)).mpr fun p ↦ ?_)
  rw [List.mem_filter, beq_iff_eq, List.mem_singleton]
  constructor
  · rintro ⟨hp, hhandle⟩
    exact List.inj_on_of_nodup_map h.places hp hplaced hhandle
  · rintro rfl
    exact ⟨hplaced, rfl⟩

/-! ### What calls do to the queue -/

theorem perm_insertPlace (p : Place) (queue : List Place) :
    (insertPlace p queue).Perm (p :: queue) := by
  induction queue with
  | nil => exact .refl _
  | cons q qs ih =>
    rw [insertPlace]
    split
    · exact .refl _
    · exact (ih.cons q).trans (.swap p q qs)

/-- Sweeping leaves as many stale places as are tolerated, at most. -/
theorem length_queue_sweep_le (hs : s.Sound) (ha : s.agenda.Orderly)
    (hplaces : (s.queue.map (·.2)).Nodup) (limit : Nat) :
    (s.sweep limit).queue.length ≤ s.live.length + limit := by
  rw [sweep]
  split
  · show (s.queue.filter fun p ↦ s.isPending p.2).length ≤ s.live.length + limit
    rw [length_filter_isPending hs ha hplaces]
    omega
  · omega

/-- Sweeping only takes places out of the queue. -/
theorem queue_sweep_sublist (s : Schedule τ) (limit : Nat) :
    (s.sweep limit).queue.Sublist s.queue := by
  rw [sweep]
  split
  · exact List.filter_sublist
  · exact .refl _

/-- Looking for a due task leaves an end of the queue. -/
theorem takeDue_suffix (s : Schedule τ) (queue : List Place) : (s.takeDue queue).2 <:+ queue := by
  rcases s.takeDue_cases queue with
    ⟨stale, p, rest, t, hqueue, -, -, ⟨-, htake⟩ | ⟨-, htake⟩⟩ | ⟨-, htake⟩
  · rw [htake]
    exact ⟨stale ++ [p], by simp [hqueue]⟩
  · rw [htake]
    exact ⟨stale, hqueue.symm⟩
  · rw [htake]
    exact List.nil_suffix

theorem queue_popDue (s : Schedule τ) : s.popDue.2.queue = (s.takeDue s.queue).2 := by
  rw [popDue]
  split <;> simp_all

/-- Of live tasks with different handles, a handle takes away one at most. -/
theorem length_live_le (ha : s.agenda.Orderly) (handle : Nat) :
    s.live.length ≤ (s.live.filter (·.1 != handle)).length + 1 := by
  have hone : s.live.countP (·.1 == handle) ≤ 1 := by
    have hcount := List.nodup_iff_count_le_one.mp ha.distinct handle
    rwa [List.count, List.countP_map] at hcount
  have hlength := List.length_eq_countP_add_countP (·.1 == handle) (l := s.live)
  rw [← List.countP_eq_length_filter]
  have hrest : s.live.countP (fun e ↦ ¬(e.1 == handle) = true) = s.live.countP (·.1 != handle) :=
    List.countP_congr fun e _ ↦ by simp
  omega

/-! ### Calls -/

/-- Except for the place of a new task, a call adds none. -/
theorem nodup_places_answer (h : s.InStep limit) (c : Call τ) :
    ((s.answer limit c).2.queue.map (·.2)).Nodup := by
  cases c with
  | scheduleIn delay task note =>
    have hnew : s.next ∉ s.queue.map (·.2) := by
      intro hmem
      obtain ⟨p, hp, hnext⟩ := List.mem_map.mp hmem
      exact Nat.ne_of_lt (h.sound.queue_lt p hp) hnext
    refine (((perm_insertPlace (s.now + delay, s.next) s.queue).map (·.2)).nodup_iff).mpr ?_
    exact List.nodup_cons.mpr ⟨hnew, h.places⟩
  | cancel handle =>
    refine h.places.sublist (List.Sublist.map _ ?_)
    show (s.cancelWithin limit handle : Told Empty (Bool × Schedule τ)).value.2.queue.Sublist
      s.queue
    rw [cancelWithin]
    rcases s.find? handle with - | t
    · exact .refl _
    · exact queue_sweep_sublist _ limit
  | popDue =>
    refine h.places.sublist (List.Sublist.map _ ?_)
    show s.popDue.2.queue.Sublist s.queue
    rw [queue_popDue]
    exact (s.takeDue_suffix s.queue).sublist
  | isPending | advance | size | isEmpty | now => exact h.places

/-- A task that comes out takes its place with it, and one that is cancelled may leave it as long as
few enough do. -/
theorem length_queue_answer_le (h : s.InStep limit) (c : Call τ) :
    (s.answer limit c).2.queue.length ≤ (s.answer limit c).2.live.length + limit := by
  have hlag := h.lag
  cases c with
  | scheduleIn delay task note =>
    show (insertPlace (s.now + delay, s.next) s.queue).length ≤ (s.live ++ [_]).length + limit
    rw [(perm_insertPlace _ _).length_eq, List.length_cons, List.length_append,
      List.length_singleton]
    omega
  | cancel handle =>
    show (s.cancelWithin limit handle : Told Empty (Bool × Schedule τ)).value.2.queue.length ≤
      (s.cancelWithin limit handle : Told Empty (Bool × Schedule τ)).value.2.live.length + limit
    rw [cancelWithin]
    rcases s.find? handle with - | t
    · exact hlag
    · -- by now the place of the task is stale, so the excess is counted with it
      let rest : Schedule τ := { s with live := s.live.filter (·.1 != handle) }
      show (rest.sweep limit).queue.length ≤ (rest.sweep limit).live.length + limit
      rw [sweep_live]
      exact length_queue_sweep_le (h.sound.dropTask handle) (h.orderly.filter _) h.places limit
  | popDue =>
    show s.popDue.2.queue.length ≤ s.popDue.2.live.length + limit
    have hshort := (s.takeDue_suffix s.queue).length_le
    rw [← queue_popDue] at hshort
    rcases popDue_cases h.sound with
      ⟨handle, t, queue, -, -, hshorter, hpop, -⟩ | ⟨queue, hpop, -, -⟩
    · rw [hpop]
      have hlive := length_live_le h.orderly handle
      show queue.length ≤ (s.live.filter (·.1 != handle)).length + limit
      omega
    · rw [hpop] at hshort ⊢
      exact Nat.le_trans hshort hlag
  | isPending | advance | size | isEmpty | now => exact hlag

/-- Calls keep the queue in step. -/
theorem InStep.answer (h : s.InStep limit) (c : Call τ) : (s.answer limit c).2.InStep limit where
  sound := h.sound.answer limit c
  orderly := orderly_answer h.sound h.orderly limit c
  places := nodup_places_answer h c
  lag := length_queue_answer_le h c

theorem InStep.stateAfter (h : s.InStep limit) (calls : List (Call τ)) :
    (stateAfter (Schedule.answer limit) s calls).InStep limit := by
  induction calls generalizing s with
  | nil => exact h
  | cons c cs ih => exact ih (h.answer c)

/-- Whatever is asked of a schedule, each live task has exactly one place in the queue, with the
time at which it comes due; no handle has two places, and all of them have been given; and there are
not more than `limit` places in excess of the live tasks. In a game the limit is `staleLimit`. -/
theorem queue_keeps_up (limit : Nat) (calls : List (Call τ)) :
    let s := stateAfter (answer limit) ({} : Schedule τ) calls
    (∀ e ∈ s.live, s.queue.filter (·.2 == e.1) = [(e.2.due, e.1)]) ∧
      (s.live.map (·.1)).Nodup ∧ (s.queue.map (·.2)).Nodup ∧ (∀ p ∈ s.queue, p.2 < s.next) ∧
      s.queue.length ≤ s.live.length + limit := by
  intro s
  have h : s.InStep limit := (inStep_empty limit).stateAfter calls
  exact ⟨fun e he ↦ h.filter_queue he, h.orderly.distinct, h.places, h.sound.queue_lt, h.lag⟩

end Schedule

end Storyline
