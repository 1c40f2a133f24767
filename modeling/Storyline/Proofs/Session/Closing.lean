import Mathlib.Data.List.Induction
import Storyline.Proofs.Dialogue.Timing
import Storyline.Proofs.Session.Timer

/-!
# Closing on time

When a closing waits and time passes, in however many steps and of whatever lengths, all that
matters is what the steps add up to. `Engine.LeftBy` says what an engine is after such steps: a
closing still waits, with so much less time left, or the steps have reached its time and the
dialogue is over. One more step goes from there to the next such state (`Engine.LeftBy.step`), so
this holds after any number of them (`Engine.leftBy_passing`), and the step that announces the end
is the first with which the time is reached (`Engine.LeftBy.notices_update`).

The clock stops at the end of time, but a closing is never set behind it; so the sum of the steps,
which does not stop, is compared with the time that was left at the beginning. That this is the
time of the node that has just been shown takes the one condition that its end can be expressed on
the clock (`Session.closes_on_time`).
-/

namespace Storyline

namespace Duration

/-- What spans of time add up to, in nanoseconds. The sum stops at no limit. -/
def total : List Duration → Nat
  | [] => 0
  | d :: ds => d.nanos + total ds

theorem total_append_singleton (spans : List Duration) (d : Duration) :
    total (spans ++ [d]) = total spans + d.nanos := by
  induction spans with
  | nil => simp [total]
  | cons first spans ih => rw [List.cons_append, total, total, ih, Nat.add_assoc]

/-- What is left of a time after a while, where the clock may have stopped on the way. -/
theorem nanos_sub_add (due now elapsed : Duration) :
    (due - (now + elapsed)).nanos = (due - now).nanos - elapsed.nanos := by
  have hdue : due.nanos < limit := due.nanos_lt
  show due.nanos - (now + elapsed).nanos = due.nanos - now.nanos - elapsed.nanos
  rw [nanos_add]
  omega

/-- What is left of a time at its beginning is all of it, if the clock can show its end. -/
theorem add_sub_cancel_left {now wait : Duration} (h : now.nanos + wait.nanos < limit) :
    now + wait - now = wait := by
  have hnanos : (now + wait - now).nanos = wait.nanos := by
    show (now + wait).nanos - now.nanos = wait.nanos
    rw [nanos_add]
    omega
  rcases hleft : now + wait - now with ⟨n, hn⟩
  rw [hleft] at hnanos
  subst hnanos
  rfl

/-- Steps of time reach a given time: there is at least one, and they add up to no less. -/
def Reach (steps : List Duration) (wait : Duration) : Prop :=
  steps ≠ [] ∧ wait.nanos ≤ total steps

instance (steps : List Duration) (wait : Duration) : Decidable (Reach steps wait) :=
  inferInstanceAs (Decidable (_ ∧ _))

theorem reach_append_singleton {steps : List Duration} {d wait : Duration} :
    Reach (steps ++ [d]) wait ↔ wait.nanos ≤ total steps + d.nanos := by
  simp [Reach, total_append_singleton]

theorem Reach.append {steps : List Duration} {wait : Duration} (h : Reach steps wait)
    (d : Duration) : Reach (steps ++ [d]) wait :=
  reach_append_singleton.mpr (Nat.le_trans h.2 (Nat.le_add_right _ _))

end Duration

open Duration (total Reach)

/-- Putting a snapshot back takes no time. -/
theorem Snapshot.onTime_apply {e : Engine} (he : e.Coherent) (s : Snapshot)
    (tree : Option IndexedTree) :
    e.OnTime (s.apply e tree).notices (s.apply e tree).value.2 := by
  obtain ⟨schedule, hrestored, -, hlive, hnow⟩ := restoreWorld_spec he s
  have hidle : e.SetAnew (s.restoreWorld e).value := by
    rw [hrestored]
    exact ⟨hnow, rfl, Engine.setNow_of_idle rfl⟩
  rcases hposition : s.position tree with err | - | ⟨t, name⟩
  · rw [apply_of_position_error hposition]
    exact Engine.onTime_of_silent rfl rfl
  · rw [(apply_of_no_position hposition e).1]
    exact hidle.onTime _
  · rcases hnode : t.node? name with - | node
    · rw [(apply_of_missing hposition hnode e).1]
      exact hidle.onTime _
    · have hstill : (s.restoreWorld e).value.Still := by
        rw [hrestored]
        exact ⟨rfl, hlive⟩
      have hresumed : Engine.SetAnew (s.restoreWorld e).value
          ((s.restoreWorld e).value.resume t node).value :=
        Engine.setAnew_resume (moved_restoreWorld he s).2 (.inl hstill) (IndexedTree.node?_id hnode)
      rw [(apply_of_found hposition hnode e).1]
      exact (hresumed.after hidle.now hidle.settings).onTime _

namespace Engine

variable {e e' : Engine}

/-! ### One operation -/

/-- What an operation does to the timing. -/
theorem onTime_perform (he : e.Coherent) (op : Operation) :
    OnTime e (e.perform op).notices (e.perform op).value.2 := by
  have hs := he.schedule
  have ht := he.timed
  cases op with
  | start tree => simpa [perform] using onTime_start hs ht tree
  | startAt tree node => simpa [perform] using onTime_startAt hs ht tree node
  | resumeAt tree node => simpa [perform] using onTime_resumeAt hs ht tree node
  | select index => simpa [perform] using onTime_select hs ht index
  | advance => simpa [perform] using onTime_advance hs ht
  | forceEnd => simpa [perform] using onTime_forceEnd hs ht
  | update elapsed => simpa [perform] using onTime_update he elapsed
  | write w => exact onTime_of_silent rfl (by simp [perform, withStore])
  | addItem item => exact onTime_of_silent rfl (by simp [perform])
  | removeItem item => exact onTime_of_silent rfl rfl
  | run command => exact onTime_of_silent rfl (by simp [perform])
  | apply s tree =>
    obtain ⟨hvalue, hnotices⟩ := e.perform_apply s tree
    rw [hvalue, hnotices]
    exact s.onTime_apply he tree

/-- No operation changes the settings. -/
theorem settings_after (he : e.Coherent) (ops : List Operation) :
    (e.after ops).settings = e.settings := by
  induction ops generalizing e with
  | nil => rfl
  | cons op ops ih => exact (ih (coherent_perform he op)).trans (onTime_perform he op).settings

/-! ### Steps of time -/

/-- Time passes in steps, and nothing else happens. -/
def passing (steps : List Duration) : List Operation := steps.map .update

theorem after_passing_append_singleton (e : Engine) (steps : List Duration) (d : Duration) :
    e.after (passing (steps ++ [d])) = ((e.after (passing steps)).update d).value := by
  rw [passing, List.map_append, after_append]
  rfl

/-- The time that is left goes down with the clock. -/
theorem timeToEnd_of_elapsed {elapsed : Duration} (hpending : e'.pendingEnd = e.pendingEnd)
    (hlive : e'.schedule.live = e.schedule.live) (hnow : e'.now = e.now + elapsed) :
    e'.timeToEnd.nanos = e.timeToEnd.nanos - elapsed.nanos := by
  have hfind : e'.schedule.find? = e.schedule.find? := by
    funext handle
    rw [Schedule.find?, Schedule.find?, hlive]
  rw [timeToEnd, timeToEnd, hpending, hfind, hnow]
  rcases e.pendingEnd.bind e.schedule.find? with - | t
  · exact (Nat.zero_sub _).symm
  · exact Duration.nanos_sub_add t.due e.now elapsed

/-- What an engine `e` in which a closing waits is after steps of time. -/
structure LeftBy (e : Engine) (steps : List Duration) (e' : Engine) : Prop where
  coherent : e'.Coherent
  world : e'.world = e.world
  /-- As long as they have not reached its time, the closing waits. -/
  waits : ¬Reach steps e.timeToEnd → e'.pendingAutoEnd = true ∧
    e'.timeToEnd.nanos = e.timeToEnd.nanos - total steps
  /-- From then on the dialogue is over. -/
  ended : Reach steps e.timeToEnd → e'.active = none

namespace LeftBy

variable {steps : List Duration}

/-- One more step ends the dialogue exactly if it is the first that reaches the time. -/
theorem due_iff (h : e.LeftBy steps e') (d : Duration) :
    e'.pendingAutoEnd = true ∧ e'.timeToEnd ≤ d ↔
      ¬Reach steps e.timeToEnd ∧ Reach (steps ++ [d]) e.timeToEnd := by
  by_cases hreach : Reach steps e.timeToEnd
  · have hstill := pendingAutoEnd_of_still (h.coherent.still_of_idle (h.ended hreach))
    simp [hreach, hstill]
  · obtain ⟨hpending, hleft⟩ := h.waits hreach
    rw [Duration.reach_append_singleton]
    show e'.pendingAutoEnd = true ∧ e'.timeToEnd.nanos ≤ d.nanos ↔ _
    rw [hleft]
    simp only [hpending, hreach, not_false_eq_true, true_and]
    omega

/-- How a further step leaves the engine. -/
theorem step (h : e.LeftBy steps e') (d : Duration) :
    e.LeftBy (steps ++ [d]) (e'.update d).value := by
  have houtcome := outcome_update false h.coherent d
  have hcoherent := houtcome.1.coherent h.coherent houtcome.2
  rcases update_spec h.coherent d with
    ⟨hdue, schedule, hupdate, -, hlive, hnow⟩ | ⟨hdue, schedule, hvalue, -⟩
  · rw [h.due_iff] at hdue
    rw [hupdate] at hcoherent ⊢
    refine ⟨hcoherent, h.world, fun hreach ↦ ?_, fun hreach ↦ ?_⟩
    · -- nor had the steps before reached it
      obtain ⟨hpending, hleft⟩ := h.waits fun hbefore ↦ hreach (hbefore.append d)
      let after : Engine := { e' with schedule }
      have hsame : after.pendingAutoEnd = e'.pendingAutoEnd := pendingAutoEnd_congr rfl hlive
      have hless : after.timeToEnd.nanos = e'.timeToEnd.nanos - d.nanos :=
        timeToEnd_of_elapsed rfl hlive hnow
      refine ⟨hsame.trans hpending, ?_⟩
      rw [Told.value_pure, hless, hleft, Duration.total_append_singleton, Nat.sub_sub]
    · exact h.ended (Decidable.byContradiction fun hbefore ↦ hdue ⟨hbefore, hreach⟩)
  · rw [h.due_iff] at hdue
    rw [hvalue] at hcoherent ⊢
    exact ⟨hcoherent, h.world, fun hreach ↦ absurd hdue.2 hreach, fun _ ↦ rfl⟩

/-- What one more step announces. -/
theorem notices_update (h : e.LeftBy steps e') (d : Duration) :
    (e'.update d).notices =
      if ¬Reach steps e.timeToEnd ∧ Reach (steps ++ [d]) e.timeToEnd then [.event .ended]
      else [] := by
  rcases update_spec h.coherent d with
    ⟨hdue, schedule, hupdate, -⟩ | ⟨hdue, schedule, -, hnotices, -⟩
  · rw [h.due_iff] at hdue
    rw [hupdate, if_neg hdue]
    rfl
  · rw [h.due_iff] at hdue
    rw [hnotices, if_pos hdue]

end LeftBy

/-- After any steps of time, by induction. -/
theorem leftBy_passing (he : e.Coherent) (hpending : e.pendingAutoEnd = true)
    (steps : List Duration) : e.LeftBy steps (e.after (passing steps)) := by
  induction steps using List.reverseRecOn with
  | nil => exact ⟨he, rfl, fun _ ↦ ⟨hpending, rfl⟩, fun hreach ↦ absurd rfl hreach.1⟩
  | append_singleton steps d ih =>
    rw [after_passing_append_singleton]
    exact ih.step d

/-! ### Closing after a time -/

/-- The dialogue of an engine closes itself after a time, however this time passes. -/
structure ClosesAfter (e : Engine) (wait : Duration) (steps : List Duration) : Prop where
  /-- It goes on exactly as long as the steps add up to less. -/
  goesOn_iff : (e.after (passing steps)).isActive = true ↔ total steps < wait.nanos
  /-- Its end is announced once, and nothing else is. -/
  announced : (e.performAll (passing steps)).notices =
    if total steps < wait.nanos then [] else [.event .ended]
  /-- The step that announces it is the first with which the time is reached. -/
  announcedBy : ∀ before d later, steps = before ++ d :: later →
    ((e.after (passing before)).perform (.update d)).notices =
      if ¬Reach before wait ∧ Reach (before ++ [d]) wait then [.event .ended] else []
  /-- The variables and the items stay as they are throughout. -/
  world : ∀ before, before <+: steps → (e.after (passing before)).world = e.world

/-- What is told in a further step comes behind what was told before. -/
theorem notices_passing_append_singleton (e : Engine) (steps : List Duration) (d : Duration) :
    (e.performAll (passing (steps ++ [d]))).notices =
      (e.performAll (passing steps)).notices ++ ((e.after (passing steps)).update d).notices := by
  induction steps generalizing e with
  | nil => simp [passing, perform]
  | cons first steps ih =>
    have hcons (more : List Duration) : passing (first :: more) = .update first :: passing more :=
      rfl
    rw [List.cons_append, hcons, hcons, notices_performAll_cons, notices_performAll_cons, ih,
      after_cons, List.append_assoc]

/-- While time passes, all that is told is the end of the dialogue, once its wait is reached. -/
theorem notices_passing (he : e.Coherent) (hpending : e.pendingAutoEnd = true)
    (steps : List Duration) :
    (e.performAll (passing steps)).notices =
      if Reach steps e.timeToEnd then [.event .ended] else [] := by
  induction steps using List.reverseRecOn with
  | nil => rfl
  | append_singleton steps d ih =>
    rw [notices_passing_append_singleton, ih, (leftBy_passing he hpending steps).notices_update]
    by_cases hbefore : Reach steps e.timeToEnd
    · simp [hbefore, hbefore.append d]
    · simp [hbefore]

/-- A closing that waits closes the dialogue after the time that is left of it. -/
theorem closesAfter_timeToEnd (he : e.Coherent) (hpending : e.pendingAutoEnd = true)
    {steps : List Duration} (hsteps : steps ≠ []) : e.ClosesAfter e.timeToEnd steps := by
  have hreach : Reach steps e.timeToEnd ↔ ¬total steps < e.timeToEnd.nanos := by
    rw [Reach, Nat.not_lt]
    exact and_iff_right hsteps
  have hleft := leftBy_passing he hpending steps
  constructor
  · by_cases hend : Reach steps e.timeToEnd
    · rw [isActive, hleft.ended hend]
      simpa using hreach.mp hend
    · have hwaits := (hleft.waits hend).1
      simp only [hleft.coherent.isActive_of_pending hwaits, true_iff]
      exact Decidable.byContradiction fun hnot ↦ hend (hreach.mpr hnot)
  · rw [notices_passing he hpending]
    simp only [hreach, ite_not]
  · intro before d later _
    rw [← (leftBy_passing he hpending before).notices_update d]
    simp [perform]
  · exact fun before _ ↦ (leftBy_passing he hpending before).world

end Engine

namespace Session

variable (x : Session)

theorem settings_engine : x.engine.settings = x.settings :=
  Engine.settings_after x.coherent_start x.ops

/-- A node that is shown and about to close itself does so after its time: the dialogue goes on
exactly as long as the steps in which time passes add up to less, its end is announced once, by the
first step with which they reach the time, and the variables and items stay as they are. -/
theorem closes_on_time {op : Operation}
    (hdisplays : displaysNode (x.engine.perform op).notices = true)
    (hpending : (x.engine.perform op).value.2.pendingAutoEnd = true) :
    ∃ node, (x.engine.perform op).value.2.currentNode? = some node ∧
      (x.engine.now.nanos + (node.displayTime x.settings).nanos < Duration.limit →
        ∀ steps, steps ≠ [] →
          (x.engine.perform op).value.2.ClosesAfter (node.displayTime x.settings) steps) := by
  have he := Engine.coherent_perform x.coherent op
  have htimes := Engine.onTime_perform x.coherent op
  rcases he.timer with hstill | ⟨a, ha, harmed⟩
  · rw [Engine.pendingAutoEnd_of_still hstill] at hpending
    cases hpending
  · obtain ⟨node, hnode, -⟩ := he.exists_currentNode ha
    refine ⟨node, hnode, fun hlimit steps hsteps ↦ ?_⟩
    obtain ⟨handle, t, -, hlive, -, htime⟩ := harmed.pending
    -- the closing was set just now, so the time that is left of it is that of the node
    have hdue : t.due = x.engine.now + node.displayTime x.settings := by
      have hentry := htimes.setNow hdisplays node hnode (handle, t) (by simp [hlive])
      rwa [htimes.now hdisplays, htimes.settings, x.settings_engine] at hentry
    have hleft : (x.engine.perform op).value.2.timeToEnd = node.displayTime x.settings := by
      rw [htime, hdue, htimes.now hdisplays, Duration.add_sub_cancel_left hlimit]
    rw [← hleft]
    exact Engine.closesAfter_timeToEnd he hpending hsteps

/-- The door is shown for the third time, a second after it was shown first; its closing has been
given up twice by then. It closes after three seconds. -/
theorem closes_on_time_door :
    let x : Session := { ops := [.start doorTree, .update second, .start doorTree] }
    let shown := x.engine.perform (.start doorTree)
    displaysNode shown.notices = true ∧ shown.value.2.pendingAutoEnd = true ∧
      x.engine.now.nanos + (doorNode.displayTime x.settings).nanos < Duration.limit ∧
      shown.value.2.ClosesAfter (.ofNanos (3 * Duration.perSecond))
        [.zero, second, second, second] := by
  intro x shown
  have hdisplays : displaysNode shown.notices = true := by decide +kernel
  have hpending : shown.value.2.pendingAutoEnd = true := by decide +kernel
  have hlimit : x.engine.now.nanos + (doorNode.displayTime x.settings).nanos < Duration.limit := by
    decide +kernel
  obtain ⟨node, hnode, hcloses⟩ := x.closes_on_time hdisplays hpending
  have hdoor : shown.value.2.currentNode? = some doorNode := by decide +kernel
  obtain rfl : node = doorNode := Option.some.inj (hnode.symm.trans hdoor)
  have htime : doorNode.displayTime x.settings = .ofNanos (3 * Duration.perSecond) := by
    decide +kernel
  exact ⟨hdisplays, hpending, hlimit, htime ▸ hcloses hlimit _ (by simp)⟩

end Session

end Storyline
