import Storyline.KeyMap
import Storyline.Schedule.Basic

/-!
# The queue of a schedule

The queue and the table of live tasks are kept in step lazily, so what they agree on has to be
said (`Schedule.Sound`): the queue is ascending, each live task has its place in it, a place of a
live task carries the time at which that task comes due, and no handle in the queue is still to be
given.

Every operation keeps this. From it follows what a schedule is asked for: a live task that is due
comes out, and nothing does as long as no live task is due (`popDue_cases`).
-/

namespace Storyline

namespace Place

/-- A place stands before another one if it is due earlier, or at the same time under a lower
handle. -/
theorem before_iff {p q : Place} :
    Place.before p q = true ↔ p.1.nanos < q.1.nanos ∨ p.1.nanos = q.1.nanos ∧ p.2 < q.2 := by
  simp [Place.before]

theorem before_trans {p q r : Place} (h : Place.before p q = true) (h' : Place.before q r = true) :
    Place.before p r = true := by
  rw [before_iff] at h h' ⊢
  omega

/-- Two places with different handles stand in one order or the other. -/
theorem before_of_not_before {p q : Place} (hne : p.2 ≠ q.2) (h : ¬ Place.before p q = true) :
    Place.before q p = true := by
  rw [before_iff] at h ⊢
  omega

end Place

namespace Schedule

variable {τ α : Type} {s : Schedule τ}

theorem lookup_filter_ne (live : List (Nat × Deferred τ)) (handle k : Nat) :
    (live.filter (·.1 != handle)).lookup k = if k = handle then none else live.lookup k := by
  induction live with
  | nil => simp
  | cons x xs ih =>
    by_cases hx : x.1 = handle
    · rw [List.filter_cons_of_neg (by simp [hx]), ih, KeyMap.lookup_cons_eq_ite]
      by_cases hk : k = handle
      · simp [hk]
      · simp [hk, hx]
    · rw [List.filter_cons_of_pos (by simp [hx]), KeyMap.lookup_cons_eq_ite,
        KeyMap.lookup_cons_eq_ite, ih]
      by_cases hk : k = x.1
      · rw [if_pos hk, if_pos hk, if_neg (hk ▸ hx)]
      · rw [if_neg hk, if_neg hk]

/-- The queue and the live tasks agree. -/
structure Sound (s : Schedule τ) : Prop where
  /-- The places are in ascending order. -/
  sorted : s.queue.Pairwise fun p q ↦ Place.before p q = true
  /-- The handles in the queue have been given. -/
  queue_lt : ∀ p ∈ s.queue, p.2 < s.next
  /-- A live task has its place. -/
  placed : ∀ handle t, s.find? handle = some t → (t.due, handle) ∈ s.queue
  /-- The place of a live task has its time. -/
  due_eq : ∀ p ∈ s.queue, ∀ t, s.find? p.2 = some t → p.1 = t.due

theorem sound_empty : ({} : Schedule τ).Sound where
  sorted := .nil
  queue_lt p hp := by simp at hp
  placed handle t h := by simp [find?] at h
  due_eq p hp := by simp at hp

/-- A handle that is still to be given has no task. -/
theorem Sound.find?_next (h : s.Sound) : s.find? s.next = none := by
  rcases hfind : s.find? s.next with - | t
  · rfl
  · exact absurd (h.queue_lt _ (h.placed _ _ hfind)) (Nat.lt_irrefl _)

/-! ### Adding and giving up -/

theorem mem_insertPlace {p q : Place} {queue : List Place} :
    q ∈ insertPlace p queue ↔ q = p ∨ q ∈ queue := by
  induction queue with
  | nil => simp [insertPlace]
  | cons r rs ih =>
    rw [insertPlace]
    split
    · simp
    · simp only [List.mem_cons, ih]
      grind

/-- A place is inserted where the order asks for it. -/
theorem sorted_insertPlace {p : Place} {queue : List Place}
    (h : queue.Pairwise fun p q ↦ Place.before p q = true) (hne : ∀ q ∈ queue, p.2 ≠ q.2) :
    (insertPlace p queue).Pairwise fun p q ↦ Place.before p q = true := by
  induction queue with
  | nil => simp [insertPlace]
  | cons q qs ih =>
    obtain ⟨hq, hqs⟩ := List.pairwise_cons.mp h
    rw [insertPlace]
    split
    · rename_i hpq
      refine List.pairwise_cons.mpr ⟨fun r hr ↦ ?_, h⟩
      rcases List.mem_cons.mp hr with rfl | hr
      · exact hpq
      · exact Place.before_trans hpq (hq r hr)
    · rename_i hpq
      refine List.pairwise_cons.mpr ⟨fun r hr ↦ ?_, ih hqs fun r hr ↦ hne r (by simp [hr])⟩
      rcases mem_insertPlace.mp hr with rfl | hr
      · exact Place.before_of_not_before (hne q (by simp)) hpq
      · exact hq r hr

/-- A new task is found under its handle, and the others as before. -/
theorem find?_scheduleIn (h : s.Sound) (delay : Duration) (task : τ) (note : Option String)
    (k : Nat) :
    (s.scheduleIn delay task note : Told α (Nat × Schedule τ)).value.2.find? k =
      if k = s.next then some ⟨s.now + delay, task, note⟩ else s.find? k := by
  have hnext := h.find?_next
  simp only [find?] at hnext
  simp only [scheduleIn, find?, Told.value_bind, Told.value_pure, List.lookup_append]
  rw [KeyMap.lookup_cons_eq_ite]
  -- the new task stands behind the others, none of which has its handle
  by_cases hk : k = s.next
  · subst k
    simp [hnext]
  · simp [hk]

/-- Scheduling a task keeps a schedule sound. -/
theorem Sound.scheduleIn (h : s.Sound) (delay : Duration) (task : τ) (note : Option String) :
    (s.scheduleIn delay task note : Told α (Nat × Schedule τ)).value.2.Sound where
  sorted := sorted_insertPlace h.sorted fun q hq ↦ (Nat.ne_of_lt (h.queue_lt q hq)).symm
  queue_lt p hp := by
    rcases mem_insertPlace.mp hp with rfl | hp
    · exact Nat.lt_succ_self _
    · exact Nat.lt_succ_of_lt (h.queue_lt p hp)
  placed handle t ht := by
    rw [find?_scheduleIn h] at ht
    refine mem_insertPlace.mpr ?_
    split at ht
    · subst handle
      cases ht
      exact .inl rfl
    · exact .inr (h.placed handle t ht)
  due_eq p hp t ht := by
    rw [find?_scheduleIn h] at ht
    rcases mem_insertPlace.mp hp with rfl | hp
    · rw [if_pos rfl] at ht
      cases ht
      rfl
    · rw [if_neg (Nat.ne_of_lt (h.queue_lt p hp))] at ht
      exact h.due_eq p hp t ht

/-- A schedule with fewer live tasks and a thinner queue, as long as no live task loses its
place. -/
theorem Sound.thin (h : s.Sound) {s' : Schedule τ} (hnext : s'.next = s.next)
    (hqueue : s'.queue.Sublist s.queue)
    (hfind : ∀ k t, s'.find? k = some t → s.find? k = some t ∧ (t.due, k) ∈ s'.queue) :
    s'.Sound where
  sorted := h.sorted.sublist hqueue
  queue_lt p hp := hnext ▸ h.queue_lt p (hqueue.subset hp)
  placed handle t ht := (hfind handle t ht).2
  due_eq p hp t ht := h.due_eq p (hqueue.subset hp) t (hfind p.2 t ht).1

/-- A schedule without the task that has a handle. -/
theorem find?_filter_live (handle k : Nat) (queue : List Place) :
    ({ s with queue, live := s.live.filter (·.1 != handle) } : Schedule τ).find? k =
      if k = handle then none else s.find? k :=
  lookup_filter_ne s.live handle k

/-- A task may be dropped while its place stays in the queue. -/
theorem Sound.dropTask (h : s.Sound) (handle : Nat) :
    ({ s with live := s.live.filter (·.1 != handle) } : Schedule τ).Sound := by
  refine h.thin rfl (List.Sublist.refl _) fun k t ht ↦ ?_
  rw [find?_filter_live handle k s.queue] at ht
  split at ht
  · cases ht
  · exact ⟨ht, h.placed k t ht⟩

theorem sweep_live (s : Schedule τ) (limit : Nat) : (s.sweep limit).live = s.live := by
  unfold sweep
  split <;> rfl

theorem sweep_now (s : Schedule τ) (limit : Nat) : (s.sweep limit).now = s.now := by
  unfold sweep
  split <;> rfl

theorem sweep_next (s : Schedule τ) (limit : Nat) : (s.sweep limit).next = s.next := by
  unfold sweep
  split <;> rfl

/-- Sweeping keeps a schedule sound. -/
theorem Sound.sweep (h : s.Sound) (limit : Nat) : (s.sweep limit).Sound := by
  unfold Schedule.sweep
  split
  · refine h.thin rfl List.filter_sublist fun k t ht ↦ ⟨ht, ?_⟩
    have ht' : s.find? k = some t := ht
    exact List.mem_filter.mpr ⟨h.placed k t ht', by simp [isPending, ht']⟩
  · exact h

/-- Cancelling takes the task out of the table, whatever becomes of its place. -/
theorem live_cancelWithin (s : Schedule τ) (limit handle : Nat) :
    (s.cancelWithin limit handle : Told α (Bool × Schedule τ)).value.2.live =
      if s.isPending handle then s.live.filter (·.1 != handle) else s.live := by
  rw [cancelWithin, isPending]
  rcases s.find? handle with - | t
  · rfl
  · exact sweep_live _ _

/-- Cancelling drops the task of the handle, if it is pending. -/
theorem live_cancel (s : Schedule τ) (handle : Nat) :
    (s.cancel handle : Told α (Bool × Schedule τ)).value.2.live =
      if s.isPending handle then s.live.filter (·.1 != handle) else s.live :=
  live_cancelWithin s staleLimit handle

theorem now_cancelWithin (s : Schedule τ) (limit handle : Nat) :
    (s.cancelWithin limit handle : Told α (Bool × Schedule τ)).value.2.now = s.now := by
  rw [cancelWithin]
  rcases s.find? handle with - | t
  · rfl
  · exact sweep_now _ _

theorem now_cancel (s : Schedule τ) (handle : Nat) :
    (s.cancel handle : Told α (Bool × Schedule τ)).value.2.now = s.now :=
  now_cancelWithin s staleLimit handle

theorem next_cancelWithin (s : Schedule τ) (limit handle : Nat) :
    (s.cancelWithin limit handle : Told α (Bool × Schedule τ)).value.2.next = s.next := by
  rw [cancelWithin]
  rcases s.find? handle with - | t
  · rfl
  · exact sweep_next _ _

/-- Cancelling keeps a schedule sound, however many stale places are put up with. -/
theorem Sound.cancelWithin (h : s.Sound) (limit handle : Nat) :
    (s.cancelWithin limit handle : Told α (Bool × Schedule τ)).value.2.Sound := by
  rw [Schedule.cancelWithin]
  rcases s.find? handle with - | t
  · exact h
  · exact (h.dropTask handle).sweep limit

theorem Sound.cancel (h : s.Sound) (handle : Nat) :
    (s.cancel handle : Told α (Bool × Schedule τ)).value.2.Sound :=
  h.cancelWithin staleLimit handle

/-- Moving the clock keeps a schedule sound. -/
theorem Sound.advance (h : s.Sound) (elapsed : Duration) : (s.advance elapsed).Sound :=
  ⟨h.sorted, h.queue_lt, h.placed, h.due_eq⟩

/-! ### Taking out what is due -/

/-- Looking for a due task passes stale places. Either it meets a live task that is due, at the
first live place, or the first live place is not due, or there is none. -/
theorem takeDue_cases (s : Schedule τ) (queue : List Place) :
    (∃ stale p rest t, queue = stale ++ p :: rest ∧ (∀ q ∈ stale, s.find? q.2 = none) ∧
      s.find? p.2 = some t ∧
      ((¬ s.now < p.1 ∧ s.takeDue queue = (some (p.2, t), rest)) ∨
        s.now < p.1 ∧ s.takeDue queue = (none, p :: rest))) ∨
    (∀ q ∈ queue, s.find? q.2 = none) ∧ s.takeDue queue = (none, []) := by
  induction queue with
  | nil => exact .inr ⟨by simp, rfl⟩
  | cons p ps ih =>
    rcases hp : s.find? p.2 with - | t
    · have htake : s.takeDue (p :: ps) = s.takeDue ps := by rw [takeDue, hp]
      rw [htake]
      rcases ih with ⟨stale, q, rest, t, hps, hstale, hq, hdue⟩ | ⟨hall, hnone⟩
      · refine .inl ⟨p :: stale, q, rest, t, by simp [hps], ?_, hq, hdue⟩
        exact List.forall_mem_cons.mpr ⟨hp, hstale⟩
      · exact .inr ⟨List.forall_mem_cons.mpr ⟨hp, hall⟩, hnone⟩
    · refine .inl ⟨[], p, ps, t, rfl, by simp, hp, ?_⟩
      by_cases hdue : s.now < p.1
      · exact .inr ⟨hdue, by rw [takeDue, hp]; exact if_pos hdue⟩
      · exact .inl ⟨hdue, by rw [takeDue, hp]; exact if_neg hdue⟩

/-- A live task keeps its place when stale places before it are passed. -/
theorem Sound.placed_behind_stale (h : s.Sound) {stale rest : List Place}
    (hqueue : s.queue = stale ++ rest) (hstale : ∀ q ∈ stale, s.find? q.2 = none) {k : Nat}
    {u : Deferred τ} (hfind : s.find? k = some u) : (u.due, k) ∈ rest := by
  have hmem := h.placed k u hfind
  rw [hqueue] at hmem
  rcases List.mem_append.mp hmem with hmem | hmem
  · exact absurd hfind (by simp [hstale _ hmem])
  · exact hmem

/-- A place in the queue is before those behind it. -/
theorem Sound.before_of_mem_behind (h : s.Sound) {front behind : List Place} {p q : Place}
    (hqueue : s.queue = front ++ p :: behind) (hq : q ∈ behind) : Place.before p q = true := by
  have hsorted := h.sorted
  rw [hqueue, List.pairwise_append] at hsorted
  exact (List.pairwise_cons.mp hsorted.2.1).1 q hq

/-- What taking out a due task does: a task that is due leaves, or none is due and all stay. -/
theorem popDue_cases (h : s.Sound) :
    (∃ handle t queue, s.find? handle = some t ∧ ¬ s.now < t.due ∧ queue.length < s.queue.length ∧
      s.popDue = (some (handle, t), { s with queue, live := s.live.filter (·.1 != handle) }) ∧
      s.popDue.2.Sound) ∨
    (∃ queue, s.popDue = (none, { s with queue }) ∧ (∀ k t, s.find? k = some t → s.now < t.due) ∧
      s.popDue.2.Sound) := by
  rcases takeDue_cases s s.queue with
    ⟨stale, p, rest, t, hqueue, hstale, hp, ⟨hdue, htake⟩ | ⟨hdue, htake⟩⟩ | ⟨hall, htake⟩
  · -- the first live place is due: its task leaves, and the stale places before it with it
    have hpdue : p.1 = t.due := h.due_eq p (by simp [hqueue]) t hp
    have hpop : s.popDue =
        (some (p.2, t), { s with queue := rest, live := s.live.filter (·.1 != p.2) }) := by
      rw [popDue, htake]
    refine .inl ⟨p.2, t, rest, hp, hpdue ▸ hdue, by simp [hqueue]; omega, hpop, ?_⟩
    rw [hpop]
    refine h.thin rfl ?_ fun k u hu ↦ ?_
    · rw [hqueue]
      exact (List.sublist_cons_self _ _).trans (List.sublist_append_right _ _)
    · rw [find?_filter_live] at hu
      split at hu
      · cases hu
      · rename_i hne
        -- the place of `k` is neither stale nor that of the task taken out
        rcases List.mem_cons.mp (h.placed_behind_stale hqueue hstale hu) with rfl | hmem
        · exact absurd rfl hne
        · exact ⟨hu, hmem⟩
  · -- the first live place is not due, and the queue is ascending, so no task is
    have hpop : s.popDue = (none, { s with queue := p :: rest }) := by rw [popDue, htake]
    have hplace : ∀ k u, s.find? k = some u → (u.due, k) ∈ p :: rest := fun k u hu ↦
      h.placed_behind_stale hqueue hstale hu
    refine .inr ⟨p :: rest, hpop, fun k u hu ↦ ?_, ?_⟩
    · rcases List.mem_cons.mp (hplace k u hu) with hk | hk
      · subst p
        exact hdue
      · -- places behind the first live one come due no earlier
        have hbefore := h.before_of_mem_behind hqueue hk
        rw [Place.before_iff] at hbefore
        have hnow : s.now.nanos < p.1.nanos := hdue
        show s.now.nanos < u.due.nanos
        dsimp only at hbefore
        omega
    · rw [hpop]
      refine h.thin rfl ?_ fun k u hu ↦ ⟨hu, hplace k u hu⟩
      rw [hqueue]
      exact List.sublist_append_right _ _
  · -- every place is stale, and a live task would have one that is not
    have hpop : s.popDue = (none, { s with queue := [] }) := by rw [popDue, htake]
    have hnone : ∀ k u, s.find? k ≠ some u := fun k u hu ↦ by
      simpa [hu] using hall _ (h.placed k u hu)
    refine .inr ⟨[], hpop, fun k u hu ↦ absurd hu (hnone k u), ?_⟩
    rw [hpop]
    exact h.thin rfl (List.nil_sublist _) fun k u hu ↦ absurd hu (hnone k u)

/-- The task that comes out has its place before those of all others. -/
theorem before_of_popDue (h : s.Sound) {handle : Nat} {t : Deferred τ}
    (hpop : s.popDue.1 = some (handle, t)) {k : Nat} {u : Deferred τ}
    (hfind : s.find? k = some u) (hne : k ≠ handle) :
    Place.before (t.due, handle) (u.due, k) = true := by
  rcases takeDue_cases s s.queue with
    ⟨stale, p, rest, v, hqueue, hstale, hp, ⟨-, htake⟩ | ⟨-, htake⟩⟩ | ⟨-, htake⟩
  · rw [popDue, htake] at hpop
    obtain ⟨rfl, rfl⟩ : p.2 = handle ∧ v = t := by simpa using hpop
    have hdue : p.1 = v.due := h.due_eq p (by simp [hqueue]) v hp
    rw [← hdue]
    -- the place of `k` is behind the first live one
    rcases List.mem_cons.mp (h.placed_behind_stale hqueue hstale hfind) with rfl | hmem
    · exact absurd rfl hne
    · exact h.before_of_mem_behind hqueue hmem
  · rw [popDue, htake] at hpop
    cases hpop
  · rw [popDue, htake] at hpop
    cases hpop

/-- Taking out all that is due, from a schedule without live tasks. -/
theorem drainAtMost_of_live_nil (h : s.Sound) (hlive : s.live = []) (fuel : Nat) :
    ∃ queue, drainAtMost fuel s = ([], { s with queue }) ∧
      ({ s with queue } : Schedule τ).Sound := by
  have hnone : ∀ k, s.find? k = none := fun k ↦ by simp [find?, hlive]
  rcases fuel with - | fuel
  · exact ⟨s.queue, rfl, h⟩
  · rcases popDue_cases h with ⟨handle, t, queue, hfind, -⟩ | ⟨queue, hpop, -, hsound⟩
    · simp [hnone] at hfind
    · rw [hpop] at hsound
      exact ⟨queue, by rw [drainAtMost, hpop], hsound⟩

/-- Taking out all that is due, from a schedule with one live task: it comes out if it is due. -/
theorem drain_of_live_singleton (h : s.Sound) {handle : Nat} {t : Deferred τ}
    (hlive : s.live = [(handle, t)]) :
    (s.now < t.due ∧ ∃ queue, s.drain = ([], { s with queue }) ∧
      ({ s with queue } : Schedule τ).Sound) ∨
    (¬ s.now < t.due ∧ ∃ queue, s.drain = ([(handle, t)], { s with queue, live := [] }) ∧
      ({ s with queue, live := [] } : Schedule τ).Sound) := by
  have hfind : ∀ k u, s.find? k = some u ↔ k = handle ∧ u = t := by
    intro k u
    rw [find?, hlive, KeyMap.lookup_cons_eq_ite]
    by_cases hk : k = handle
    · simp [hk, eq_comm]
    · simp [hk]
  have hplaced := h.placed handle t ((hfind handle t).mpr ⟨rfl, rfl⟩)
  -- the live task has a place, so there is fuel for a first step
  obtain ⟨fuel, hfuel⟩ := Nat.exists_eq_succ_of_ne_zero
    (Nat.ne_of_gt (List.length_pos_of_mem hplaced))
  rw [drain, hfuel, drainAtMost]
  rcases popDue_cases h with ⟨k, u, queue, hk, hdue, -, hpop, hsound⟩ | ⟨queue, hpop, hall, hsound⟩
  · obtain ⟨rfl, rfl⟩ := (hfind k u).mp hk
    have hempty : s.live.filter (·.1 != k) = [] := by simp [hlive]
    rw [hempty] at hpop
    rw [hpop] at hsound
    -- with its only task gone, the schedule has nothing more to give
    obtain ⟨queue', hdrain, hsound'⟩ := drainAtMost_of_live_nil hsound rfl fuel
    refine .inr ⟨hdue, queue', ?_, hsound'⟩
    simp only [hpop, hdrain]
  · rw [hpop] at hsound
    exact .inl ⟨hall handle t ((hfind handle t).mpr ⟨rfl, rfl⟩), queue, by rw [hpop], hsound⟩

end Schedule

end Storyline
