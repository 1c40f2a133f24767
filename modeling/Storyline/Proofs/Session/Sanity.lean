import Storyline.Proofs.Session.Observer

/-!
# The bounds of sanity

The variable `sanity` has built-in bounds, 0 and 100. They are the first of the rules for it, and
the rules of the seeds come behind: each of them has the last word over those before it, so seeds
can put sanity anywhere. Whether they leave it where the built-in bounds have put it depends on
nothing but what all the rules together make of 0 and of 100 (`Session.sanityHeld_iff`); what is
done in a session, and how `sanity` is spelled there, does not matter.
-/

namespace Storyline

namespace Store

variable {s : Store} {seeds : Seeds}

theorem normalizeKey?_sanity : normalizeKey? "sanity" = some "sanity" := by decide +kernel

/-- Under a normal key, an integer is read as it is kept. -/
theorem getInt_of_normal {key : String} (h : normalizeKey? key = some key) :
    s.getInt key = (s.contents.ints.get? key).getD 0 := by
  rw [getInt, h, Option.bind_some]

/-- Sanity is absent, or it has passed the rules for it. -/
theorem From.sanity_mem (h : s.From seeds) :
    s.getInt "sanity" = 0 ∨
      clampBy s.rules "sanity" 0 ≤ s.getInt "sanity" ∧
        s.getInt "sanity" ≤ clampBy s.rules "sanity" 100 := by
  rw [getInt_of_normal normalizeKey?_sanity]
  rcases hvalue : s.contents.ints.get? "sanity" with - | v
  · exact .inl rfl
  · have hpassed : clampBy s.rules "sanity" v = v := (h.kept.ints "sanity" v hvalue).2
    have hmem := clampBy_rulesOf_sanity_mem h.rules_eq v
    rw [hpassed] at hmem
    exact .inr hmem

/-- What is read once an integer has been written. -/
theorem getInt_setInt {key : String} (h : normalizeKey? key = some key) (v : Int32) :
    (s.setInt key v).value.getInt key = clampBy s.rules key v := by
  rw [getInt_of_normal h, setInt, value_writeAt, h]
  simp [KeyMap.get?_insert]

end Store

namespace Session

/-- Whatever is done in a session from the seeds, sanity is between 0 and 100, in the store and in
every change of it that a listener of the store hears of. -/
def SanityHeld (seeds : Seeds) : Prop :=
  ∀ x : Session, x.seeds = seeds →
    (0 ≤ x.engine.world.store.getInt "sanity" ∧ x.engine.world.store.getInt "sanity" ≤ 100) ∧
      ∀ v, .int "sanity" v ∈ heardChanges (x.start.performAll x.ops).signals → 0 ≤ v ∧ v ≤ 100

/-- The rules in force in sessions from the seeds. -/
def rulesIn (seeds : Seeds) : List Bounds :=
  (Store.rulesOf seeds.bounds : Told Change (List Bounds)).value

/-- The session in which one value is written to sanity. -/
def writing (seeds : Seeds) (v : Int32) : Session where
  seeds := seeds
  ops := [.write (.setInt "sanity" v)]

/-- What is read of the sanity once the host has written it is what the rules make of it. -/
theorem getInt_writing (seeds : Seeds) (v : Int32) :
    (writing seeds v).engine.world.store.getInt "sanity" = clampBy (rulesIn seeds) "sanity" v :=
  Store.getInt_setInt Store.normalizeKey?_sanity v

/-- Sanity is between 0 and 100 in all sessions from some seeds exactly if that is where their
rules put 0 and 100. -/
theorem sanityHeld_iff (seeds : Seeds) :
    SanityHeld seeds ↔
      0 ≤ clampBy (rulesIn seeds) "sanity" 0 ∧ clampBy (rulesIn seeds) "sanity" 100 ≤ 100 := by
  constructor
  · intro hheld
    obtain ⟨⟨hmin, -⟩, -⟩ := hheld (writing seeds 0) rfl
    obtain ⟨⟨-, hmax⟩, -⟩ := hheld (writing seeds 100) rfl
    rw [getInt_writing] at hmin hmax
    exact ⟨hmin, hmax⟩
  · rintro ⟨hmin, hmax⟩ x rfl
    have hstore (s : Store) (hs : s.From x.seeds) :
        0 ≤ s.getInt "sanity" ∧ s.getInt "sanity" ≤ 100 := by
      have hrules : s.rules = rulesIn x.seeds := hs.rules_eq
      rcases hs.sanity_mem with hzero | ⟨hlow, hhigh⟩
      · rw [hzero]
        decide
      · rw [hrules] at hlow hhigh
        exact ⟨Int32.le_trans hmin hlow, Int32.le_trans hhigh hmax⟩
    refine ⟨hstore _ x.from_seeds, fun v hv ↦ ?_⟩
    -- what is announced was read in a store on the way
    have hwrites := Engine.writes_after x.coherent_start x.ops
    rw [heardChanges_signals] at hv
    obtain ⟨s, hs, hv⟩ := hwrites.exists_told (Store.from_ofSeeds x.seeds) hv
    have hvalue : v = s.getInt "sanity" := by
      rw [Store.getInt_of_normal Store.normalizeKey?_sanity]
      exact (Change.int.inj hv).2
    rw [hvalue]
    exact hstore s hs

/-- Seeds with a rule for sanity that leaves no value where the built-in bounds have put it. -/
def maddening : Seeds where
  bounds := [⟨" Sanity", 200, 300⟩]

/-- In sessions from those seeds, sanity is not held. -/
theorem not_sanityHeld_maddening : ¬∀ seeds, SanityHeld seeds := by
  intro hheld
  obtain ⟨⟨-, hmax⟩, -⟩ := hheld maddening (writing maddening 50) rfl
  have hvalue : (writing maddening 50).engine.world.store.getInt "sanity" = 200 := by
    decide +kernel
  rw [hvalue] at hmax
  exact absurd hmax (by decide)

end Session

end Storyline
