import Storyline.Proofs.Session.Observer
import Storyline.Proofs.Store.Announcement
import Storyline.Proofs.Store.Clamping
import Storyline.Proofs.Store.Setting

/-!
# The store of a session

However a session went, its store started from its seeds, and what it holds has gone through the
same normalization and the same rules as they have (`Store.From`). Four things follow for any
seeds, also such as are authored carelessly.

* Nothing in the store is out of order, and clamping never fails (`Session.store_clamped`).
* Setting one variable does this and nothing else, and each listener hears of it once
  (`Session.single_writes`).
* A reset makes the store what it was when it was new, and it behaves like that from then on
  (`Session.reset_eq_fresh`).
* Whoever listens to a reset or to saved values that are restored hears of each touched variable
  once, in order, and of its value afterwards (`Session.replacement_announced`).
-/

namespace Storyline

/-! ### What a store holds -/

namespace Store

/-- All is in order in a store with the given seeds. -/
structure Clamped (seeds : Seeds) (s : Store) : Prop where
  /-- Keys are not blank, and they are in normal form. -/
  keys : ∀ key ∈ s.contents.ints.keys ++ s.contents.bools.keys ++ s.contents.floats.keys ++
    s.contents.strings.keys, Text.isBlankText key = false ∧ normalizeKey? key = some key
  /-- Integers pass the rules in force unchanged. -/
  ints : ∀ key v, s.contents.ints.get? key = some v → clampBy s.rules key v = v
  /-- They do what the well-formed rules for their key ask for, be it those of the seeds or these
  with the built-in one before them. -/
  honours : ∀ key v, s.contents.ints.get? key = some v →
    Bounds.Honours (Bounds.rulesFor seeds.bounds key) v ∧
      Bounds.Honours (Bounds.rulesFor (Bounds.sanity :: seeds.bounds) key) v

/-- A store that started from seeds is clamped. -/
theorem From.clamped {s : Store} {seeds : Seeds} (h : s.From seeds) : s.Clamped seeds where
  keys key hkey := by
    have hnormal : normalizeKey? key = some key := by
      simp only [List.mem_append, or_assoc] at hkey
      rcases hkey with hkey | hkey | hkey | hkey
      · exact normalizeKey?_of_mem_keys h.kept.ints hkey
      · exact normalizeKey?_of_mem_keys h.kept.bools hkey
      · exact normalizeKey?_of_mem_keys h.kept.floats hkey
      · exact normalizeKey?_of_mem_keys h.kept.strings hkey
    exact ⟨(normalizeKey?_eq_some_iff.mp hnormal).1, hnormal⟩
  ints key v hv := (h.kept.ints key v hv).2
  honours _ _ hv := (h.honours hv).symm

end Store

namespace Session

/-! ### For every session -/

variable (x : Session)

/-- The store as it was when it was new. -/
def freshStore : Store := (Store.ofSeeds x.seeds : Told Change Store).value

/-- In a session no clamping ever fails, be it of the seeds, of what was written on the way, or by
any write that comes next; and all is in order in the store. -/
theorem store_clamped :
    Store.ofSeeds? x.seeds = some x.freshStore ∧
      (∃ ws : List Write, ws.foldlM Store.perform? x.freshStore = some x.engine.world.store) ∧
      (∀ w, x.engine.world.store.perform? w = some (x.engine.world.store.perform w).value) ∧
      x.engine.world.store.Clamped x.seeds := by
  have hwrites : x.freshStore.Writes _ x.engine.world.store :=
    Engine.writes_after x.coherent_start x.ops
  exact ⟨Store.ofSeeds?_eq_some x.seeds, hwrites.exists_perform? (Store.from_ofSeeds x.seeds),
    x.from_seeds.perform?_eq_some, x.from_seeds.clamped⟩

/-- Setting a variable has its value changed, and nothing else; adding to an integer and turning a
switch over are ways to set them. Under a blank key nothing is changed or heard of. -/
theorem single_writes {τ : Type} (listeners : Registry τ) (key : String) :
    let l : Listened τ := ⟨x.engine.world.store, listeners⟩
    (Text.isBlankText key = false → ∀ (kind : Kind) (v : kind.Value),
        l.Sets kind key (x.seeds.keepAs kind key v) (l.call (.write (kind.set key v)))) ∧
      (∀ delta : Int32, ∃ sum : Int32,
        sum.toInt = max Int32.minValue.toInt
          (min ((l.store.getInt key).toInt + delta.toInt) Int32.maxValue.toInt) ∧
        l.call (.write (.addInt key delta)) = l.call (.write (.setInt key sum))) ∧
      l.call (.write (.toggleBool key)) = l.call (.write (.setBool key (!l.store.getBool key))) ∧
      (Text.isBlankText key = true → ∀ w : Write, w.key? = some key →
        (l.call (.write w)).2 = l ∧ (l.call (.write w)).1.deliveries = []) := by
  intro l
  refine ⟨fun h kind v ↦ ?_, fun delta ↦ ?_, rfl, fun h w hw ↦ ?_⟩
  · rw [← x.from_seeds.keptAs_eq kind key v]
    exact l.sets_call kind h v
  · exact ⟨saturatingAdd (l.store.getInt key) delta, toInt_saturatingAdd _ _, rfl⟩
  · obtain ⟨hnotices, hvalue⟩ := Store.perform_of_blank hw h
    have hstore : (l.call (.write w)).2 = ⟨(l.store.perform w).value, l.listeners⟩ := rfl
    rw [hstore, hvalue, Listened.deliveries_call, hnotices]
    exact ⟨rfl, rfl⟩

/-- The store after a reset. -/
def resetStore : Store := (x.engine.world.store.perform .reset).value

/-- After a reset the store has the values of a new one, which are those that it would have if each
seed had been set, and whatever is asked of both from then on has the same answers. -/
theorem reset_eq_fresh :
    x.resetStore.contents = x.freshStore.contents ∧
      x.freshStore.contents =
        (({ x.freshStore with contents := {} } : Store).written x.seeds.contents.writes).contents ∧
      ∀ (τ : Type) (listeners : Registry τ) (calls : List (Listened.Call τ)),
        (⟨x.resetStore, listeners⟩ : Listened τ).answers calls =
          (⟨x.freshStore, listeners⟩ : Listened τ).answers calls := by
  have hback : x.resetStore = x.freshStore := x.from_seeds.reset_eq
  have hfresh : x.freshStore = ({ x.freshStore with contents := {} } : Store).written
      x.seeds.contents.writes := Store.value_ofSeeds x.seeds
  rw [hback]
  exact ⟨rfl, congrArg Store.contents hfresh, fun _ _ _ ↦ rfl⟩

/-- The values in the store after a write. -/
def valuesAfter (w : Write) : Contents :=
  (x.engine.perform (.write w)).value.2.world.store.contents

variable {τ : Type} [DecidableEq τ]

/-- What a listener hears of a write. -/
def heardBy (a : Audience τ) (listener : τ) (w : Write) : List Change :=
  a.changesFor listener (x.engine.perform (.write w)).signals

/-- This is all that the store announces. -/
theorem heardBy_eq_notices {a : Audience τ} {listener : τ}
    (hlistener : a.store.subscriptions listener = 1) (w : Write) :
    x.heardBy a listener w = (x.engine.world.store.perform w).notices := by
  rw [heardBy, Audience.changesFor_of_once hlistener]
  simp [Engine.perform, Engine.withStore]

/-- Of saved values that are restored, and of a reset, each listener hears in full. -/
theorem replacement_announced {a : Audience τ} {listener : τ}
    (hlistener : a.store.subscriptions listener = 1) (saved : Contents) :
    Announced x.engine.world.store.contents saved (x.valuesAfter (.restore saved))
        (x.heardBy a listener (.restore saved)) ∧
      Announced x.engine.world.store.contents x.seeds.contents (x.valuesAfter .reset)
        (x.heardBy a listener .reset) := by
  rw [heardBy_eq_notices x hlistener, heardBy_eq_notices x hlistener]
  exact ⟨x.from_seeds.announced_restore saved, x.from_seeds.announced_reset⟩

/-- Two listeners of the store. -/
def twoListeners : Audience Bool where
  store := ((Registry.subscribe {} false).2.subscribe true).2

/-- A session with seeds of sanity and bounds for luck, in which courage was set. -/
def daring : Session where
  seeds := { contents := { ints := .ofList [("Sanity ", 80)] }, bounds := [⟨" LUCK", 0, 10⟩] }
  ops := [.write (.setInt " Courage" 7)]

/-- Luck is held within its bounds under any spelling of its name, and a name that is blank up to
zero-width characters is a name. -/
theorem single_writes_daring :
    let l : Listened Bool := ⟨daring.engine.world.store, twoListeners.store⟩
    l.Sets .int " Luck" (10 : Int32) (l.call (.write (.setInt " Luck" 25))) ∧
      l.Sets .text "\u200b" "rabbit" (l.call (.write (.setString "\u200b" "rabbit"))) ∧
      (l.call (.write (.toggleBool "\t"))).2 = l := by
  intro l
  obtain ⟨hluck, -⟩ := daring.single_writes twoListeners.store " Luck"
  obtain ⟨hhidden, -⟩ := daring.single_writes twoListeners.store "\u200b"
  obtain ⟨-, -, -, hblank⟩ := daring.single_writes twoListeners.store "\t"
  have hclamped : (Bounds.rulesFor (Bounds.sanity :: daring.seeds.bounds)
      (foldName " Luck")).foldl (fun v b ↦ b.clamp v) 25 = 10 := by decide +kernel
  have hkept : daring.seeds.keepAs .int " Luck" (25 : Int32) = (10 : Int32) := hclamped
  have hset := hluck (by decide) .int (25 : Int32)
  rw [hkept] at hset
  exact ⟨hset, hhidden (by decide) .text "rabbit", (hblank (by decide) (.toggleBool "\t") rfl).1⟩

/-- Saved values, with two spellings of luck and a text without a name. -/
def lucky : Contents where
  ints := .ofList [("LUCK", 3), ("luck ", 25)]
  strings := .ofList [(" ", "rabbit")]

/-- Of those values the second listener hears that courage and sanity are gone, and of luck as it is
within its bounds; of a reset it hears that courage is gone, and of sanity as it is seeded. -/
theorem replacement_announced_daring :
    twoListeners.store.subscriptions true = 1 ∧
      Announced daring.engine.world.store.contents lucky (daring.valuesAfter (.restore lucky))
        [.int "courage" 0, .int "luck" 10, .int "sanity" 0] ∧
      Announced daring.engine.world.store.contents daring.seeds.contents
        (daring.valuesAfter .reset) [.int "courage" 0, .int "sanity" 80] := by
  have honce : twoListeners.store.subscriptions true = 1 := by decide
  have hrestored : daring.heardBy twoListeners true (.restore lucky) =
      [.int "courage" 0, .int "luck" 10, .int "sanity" 0] := by decide +kernel
  have hreset : daring.heardBy twoListeners true .reset =
      [.int "courage" 0, .int "sanity" 80] := by decide +kernel
  obtain ⟨hannounced, hannounced'⟩ := daring.replacement_announced honce lucky
  rw [hrestored] at hannounced
  rw [hreset] at hannounced'
  exact ⟨honce, hannounced, hannounced'⟩

end Session

end Storyline
