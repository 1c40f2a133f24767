import Storyline.Proofs.Session.Timer

/-!
# Waiting in ticks

A player that waits for an end node to close lets the clock tick until nothing waits any more
(`Engine.tickOut`). Each tick leaves less time to the closing, so there is a last one, and what the
ticks come to is what waiting for the whole time at once comes to, but for the clock
(`Engine.Coherent.ticksOut`). The clock itself may stop at its limit on the way, but no closing is
set behind the limit.
-/

namespace Storyline

namespace Engine

variable {e : Engine}

/-- Lets the clock tick as long as a closing waits, so many times at most. -/
def tickOut (tick : Duration) : Nat → Engine → Told Notice Engine
  | 0, e => pure e
  | n + 1, e =>
    if e.pendingAutoEnd then do
      let e ← e.update tick
      tickOut tick n e
    else pure e

/-- Waiting for a closing at once ends the dialogue. -/
theorem update_timeToEnd_spec (he : e.Coherent) (hpending : e.pendingAutoEnd = true) :
    (e.update e.timeToEnd).notices = [.event .ended] ∧
      (e.update e.timeToEnd).value.active = none ∧
      (e.update e.timeToEnd).value.world = e.world := by
  rcases update_spec he e.timeToEnd with ⟨hdue, -⟩ | ⟨-, schedule, hvalue, hnotices, -⟩
  · exact absurd ⟨hpending, Nat.le_refl _⟩ hdue
  · rw [hvalue]
    exact ⟨hnotices, rfl, rfl⟩

/-- Where no closing waits, the clock does not tick. -/
theorem tickOut_of_not_pending (h : e.pendingAutoEnd = false) (tick : Duration) (n : Nat) :
    e.tickOut tick n = pure e := by
  cases n with
  | zero => rfl
  | succ n => rw [tickOut, h, if_neg Bool.false_ne_true]

/-- The time that is left is the one until the only task comes due. -/
theorem timeToEnd_of_live {handle : Nat} {t : Deferred String}
    (hpending : e.pendingEnd = some handle) (hlive : e.schedule.live = [(handle, t)]) :
    e.timeToEnd = t.due - e.now := by
  simp [timeToEnd, Schedule.find?, hpending, hlive]

/-- A tick after which a closing still waits leaves less time to it. -/
theorem sub_add_lt_sub {due now tick : Duration} (htick : Duration.zero < tick)
    (h : ¬due - now ≤ tick) : (due - (now + tick)).nanos < (due - now).nanos := by
  have hdue : due.nanos < Duration.limit := due.nanos_lt
  have hpos : 0 < tick.nanos := htick
  have hlater : (now + tick).nanos < due.nanos :=
    Decidable.byContradiction fun hnot ↦ h (Duration.not_add_lt_iff.mp hnot)
  rw [Duration.nanos_add] at hlater
  show due.nanos - (now + tick).nanos < due.nanos - now.nanos
  rw [Duration.nanos_add]
  omega

/-- An end node closes after some ticks. -/
theorem exists_tickOut (he : e.Coherent) (hpending : e.pendingAutoEnd = true) {tick : Duration}
    (htick : Duration.zero < tick) :
    ∃ n, ∀ m, n ≤ m →
      (e.tickOut tick m).notices = [.event .ended] ∧ (e.tickOut tick m).value.active = none ∧
        (e.tickOut tick m).value.world = e.world ∧
        (e.tickOut tick m).value.pendingAutoEnd = false := by
  -- each tick leaves less time
  induction hleft : e.timeToEnd.nanos using Nat.strongRecOn generalizing e with
  | ind left ih =>
    have houtcome := outcome_update false he tick
    have hcoherent := houtcome.1.coherent he houtcome.2
    rcases update_spec he tick with
      ⟨hdue, schedule, hupdate, -, hlive, hnow⟩ | ⟨-, schedule, hvalue, hnotices, -, hlive, -⟩
    · let after : Engine := { e with schedule }
      rw [hupdate] at hcoherent
      have hpending' : after.pendingAutoEnd = true :=
        (pendingAutoEnd_congr (d := after) (e := e) rfl hlive).trans hpending
      have hless : after.timeToEnd.nanos < left := by
        rcases he.timer with hstill | ⟨a, -, handle, t, hhandle, hone, -⟩
        · rw [pendingAutoEnd_of_still hstill] at hpending
          cases hpending
        · have htime := timeToEnd_of_live hhandle hone
          rw [timeToEnd_of_live (e := after) hhandle (hlive.trans hone), ← hleft, htime]
          show (t.due - schedule.now).nanos < _
          rw [hnow]
          exact sub_add_lt_sub htick fun hle ↦ hdue ⟨hpending, htime ▸ hle⟩
      obtain ⟨n, hn⟩ := ih _ hless hcoherent hpending' rfl
      refine ⟨n + 1, fun m hm ↦ ?_⟩
      obtain ⟨k, rfl⟩ := Nat.exists_eq_add_of_le' (Nat.le_trans (Nat.le_add_left 1 n) hm)
      rw [tickOut, if_pos hpending, hupdate, pure_bind]
      exact hn k (by omega)
    · have hstill : (e.update tick).value.pendingAutoEnd = false := by
        rw [hvalue]
        exact pendingAutoEnd_of_still ⟨rfl, hlive⟩
      refine ⟨1, fun m hm ↦ ?_⟩
      obtain ⟨k, rfl⟩ := Nat.exists_eq_add_of_le' hm
      rw [tickOut, if_pos hpending, Told.notices_bind, Told.value_bind,
        tickOut_of_not_pending hstill, hnotices]
      refine ⟨rfl, ?_, ?_, hstill⟩
      · rw [Told.value_pure, hvalue]
      · rw [Told.value_pure, hvalue]

/-- Ticks of a length come to the same as waiting for a closing at once, but for the clock. -/
def TicksOut (e : Engine) (tick : Duration) : Prop :=
  ∃ n, ∀ m, n ≤ m →
    (e.tickOut tick m).value.pendingAutoEnd = false ∧
      (e.tickOut tick m).notices = (e.update e.timeToEnd).notices ∧
      (e.tickOut tick m).value.active = (e.update e.timeToEnd).value.active ∧
      (e.tickOut tick m).value.world = (e.update e.timeToEnd).value.world

/-- Ticks of any length but zero wait for a closing. -/
theorem Coherent.ticksOut (he : e.Coherent) (hpending : e.pendingAutoEnd = true) {tick : Duration}
    (htick : Duration.zero < tick) : e.TicksOut tick := by
  obtain ⟨n, hn⟩ := exists_tickOut he hpending htick
  obtain ⟨hended, hidle, hworld⟩ := update_timeToEnd_spec he hpending
  refine ⟨n, fun m hm ↦ ?_⟩
  obtain ⟨hended', hidle', hworld', hstill⟩ := hn m hm
  exact ⟨hstill, hended'.trans hended.symm, hidle'.trans hidle.symm, hworld'.trans hworld.symm⟩

end Engine

end Storyline
