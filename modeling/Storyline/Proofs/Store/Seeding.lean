import Storyline.Audience
import Storyline.Proofs.Store.Observer

/-!
# Seeds, written one by one

A new store is seeded, and a store that is reset or takes over saved values is filled anew. What
they have in common is said here by means of the setters: settled contents are those of a store that
was empty and in which each raw value was set, in the order of the keys (`Store.written_writes`).
Setting a value does all that is needed, for it refuses blank keys, finds the normal form of others,
clamps, and puts later values over earlier ones.

Whatever has been done to a store, a reset makes it equal to the new one (`Store.From.reset_eq`).
So no later call tells them apart, of all that there are for a store with listeners
(`Listened.Call`).
-/

namespace Storyline

/-- The values as writes of them, each under its key as it stands: integers first, then switches,
numbers and texts, and those of a kind in ascending order of the keys. -/
def Contents.writes (c : Contents) : List Write :=
  c.ints.entries.map (fun e ↦ .setInt e.1 e.2) ++
  c.bools.entries.map (fun e ↦ .setBool e.1 e.2) ++
  c.floats.entries.map (fun e ↦ .setFloat e.1 e.2) ++
  c.strings.entries.map (fun e ↦ .setString e.1 e.2)

namespace Store

/-- What a store is after writes, one after the other. -/
def written (s : Store) (ws : List Write) : Store := ws.foldl (fun s w ↦ (s.perform w).value) s

/-! ### Values of one kind -/

section

variable {α : Type} (put : KeyMap α → Store) (keep : String → α → α)

/-- A write under a key settles an entry, if it puts an entry where there is a normal key. -/
theorem value_writeAt_put {m : KeyMap α} {a : α} (kind key : String)
    {write : String → Told Change Store}
    (h : ∀ k, (write k).value = put (m.insert k (keep k a))) :
    ((put m).writeAt kind key write).value = put (m.settleEntry keep (key, a)) := by
  rw [value_writeAt, KeyMap.settleEntry]
  rcases normalizeKey? key with - | k
  · rfl
  · exact h k

/-- Writes of single values settle them, where each of them settles its own in a part of a store. -/
theorem written_map_entries (write : String → α → Write)
    (h : ∀ m key a, ((put m).perform (write key a)).value = put (m.settleEntry keep (key, a)))
    (raw : KeyMap α) :
    (put .empty).written (raw.entries.map fun e ↦ write e.1 e.2) = put (raw.settle keep) := by
  rw [written, List.foldl_map, KeyMap.settle_eq_foldl]
  exact List.foldl_hom put fun m e ↦ h m e.1 e.2

end

/-! ### All values -/

theorem written_append (s : Store) (ws more : List Write) :
    s.written (ws ++ more) = (s.written ws).written more :=
  List.foldl_append

/-- Setting all values in an empty store settles them. -/
theorem written_writes (raw : Contents) (seeds : Seeds) (rules : List Bounds) :
    (⟨{}, seeds, rules⟩ : Store).written raw.writes = ⟨raw.settle rules, seeds, rules⟩ := by
  let putInts (m : KeyMap Int32) : Store := ⟨⟨m, .empty, .empty, .empty⟩, seeds, rules⟩
  let ints : KeyMap Int32 := raw.ints.settle (clampBy rules)
  let putBools (m : KeyMap Bool) : Store := ⟨⟨ints, m, .empty, .empty⟩, seeds, rules⟩
  let bools : KeyMap Bool := raw.bools.settle fun _ v ↦ v
  let putFloats (m : KeyMap Binary64) : Store := ⟨⟨ints, bools, m, .empty⟩, seeds, rules⟩
  let floats : KeyMap Binary64 := raw.floats.settle fun _ v ↦ v
  let putStrings (m : KeyMap String) : Store := ⟨⟨ints, bools, floats, m⟩, seeds, rules⟩
  -- each kind finds its own map empty, and the others as they are by then
  have hints : (putInts .empty).written (raw.ints.entries.map fun e ↦ .setInt e.1 e.2) =
      putBools .empty :=
    written_map_entries putInts (clampBy rules) .setInt
      (fun _ key _ ↦ value_writeAt_put putInts _ "int" key fun _ ↦ rfl) raw.ints
  have hbools : (putBools .empty).written (raw.bools.entries.map fun e ↦ .setBool e.1 e.2) =
      putFloats .empty :=
    written_map_entries putBools (fun _ v ↦ v) .setBool
      (fun _ key _ ↦ value_writeAt_put putBools _ "bool" key fun _ ↦ rfl) raw.bools
  have hfloats : (putFloats .empty).written (raw.floats.entries.map fun e ↦ .setFloat e.1 e.2) =
      putStrings .empty :=
    written_map_entries putFloats (fun _ v ↦ v) .setFloat
      (fun _ key _ ↦ value_writeAt_put putFloats _ "float" key fun _ ↦ rfl) raw.floats
  have hstrings : (putStrings .empty).written
      (raw.strings.entries.map fun e ↦ .setString e.1 e.2) = ⟨raw.settle rules, seeds, rules⟩ :=
    written_map_entries putStrings (fun _ v ↦ v) .setString
      (fun _ key _ ↦ value_writeAt_put putStrings _ "string" key fun _ ↦ rfl) raw.strings
  rw [Contents.writes, written_append, written_append, written_append]
  show ((((putInts .empty).written _).written _).written _).written _ = _
  rw [hints, hbools, hfloats, hstrings]

/-- A new store is what setting the seeds makes of an empty one. -/
theorem value_ofSeeds (seeds : Seeds) :
    (ofSeeds seeds : Told Change Store).value =
      (⟨{}, seeds, (rulesOf seeds.bounds : Told Change (List Bounds)).value⟩ : Store).written
        seeds.contents.writes := by
  rw [written_writes]
  rfl

/-- A reset makes a store what it was when it was new. -/
theorem From.reset_eq {s : Store} {seeds : Seeds} (h : s.From seeds) :
    s.reset.value = (ofSeeds seeds : Told Change Store).value := by
  let fresh : Store := ⟨{}, seeds, (rulesOf seeds.bounds : Told Change (List Bounds)).value⟩
  calc s.reset.value
      = s.refill s.seeds.contents := rfl
    _ = fresh.refill seeds.contents := by rw [refill_eq, refill_eq, h.rules_eq, h.seeds_eq]
    _ = fresh.seed := (seed_eq_refill rfl).symm
    _ = (ofSeeds seeds : Told Change Store).value := rfl

end Store

/-! ### A store with listeners -/

/-- A store together with those who listen to it. -/
structure Listened (τ : Type) where
  /-- The store. -/
  store : Store
  /-- Its listeners. -/
  listeners : Registry τ

namespace Listened

variable {τ : Type}

/-- What a store with listeners can be asked for. -/
inductive Call (τ : Type) where
  | write (w : Write)
  | read (kind : Kind) (key : String)
  /-- A copy of all values. -/
  | capture
  | subscribe (listener : τ)
  | unsubscribe (id : Nat)

/-- What comes of a call. -/
inductive Answer (τ : Type) where
  /-- This was logged and heard, in this order. -/
  | told (heard : List (Heard τ))
  /-- This was read; what names the variable is the key as it was asked for. -/
  | value (reading : Change)
  | contents (c : Contents)
  /-- The listener has this identifier. -/
  | id (n : Nat)
  /-- Whether there was a listener with the identifier. -/
  | found (was : Bool)

/-- Answers a call. -/
def call (l : Listened τ) : Call τ → Answer τ × Listened τ
  | .write w =>
    let result := (l.store.perform w).mapNotices Notice.change
    let audience : Audience τ := { store := l.listeners }
    (.told (audience.hear result.signals), { l with store := result.value })
  | .read kind key => (.value (l.store.saying kind key), l)
  | .capture => (.contents l.store.contents, l)
  | .subscribe listener =>
    let (id, listeners) := l.listeners.subscribe listener
    (.id id, { l with listeners })
  | .unsubscribe id =>
    let (was, listeners) := l.listeners.unsubscribe id
    (.found was, { l with listeners })

/-- Answers calls in order. -/
def answers (l : Listened τ) : List (Call τ) → List (Answer τ)
  | [] => []
  | c :: cs => (l.call c).1 :: (l.call c).2.answers cs

end Listened

end Storyline
