import Storyline.Proofs.Store.Observer

/-!
# What is announced in full

A replacement announces one kind of variables after the other, and of each kind the keys that it
touches in strictly ascending order: those that were present, and the normal forms of the new ones.
Each comes with what is read there once everything has been replaced. `Announced` says so of a list
of changes, from the contents before, the new values and the contents afterwards alone, and such a
list is what is announced (`Store.From.announced_restore`, `Store.From.announced_reset`).
-/

namespace Storyline

/-! ### The touched keys -/

/-- The keys that a replacement touches in one map, each once: the ones that are present, and
whatever new keys are spellings of. -/
structure Touched {α : Type} (old raw : KeyMap α) (keys : List String) : Prop where
  ascending : keys.Pairwise (· < ·)
  mem_iff : ∀ key, key ∈ keys ↔
    key ∈ old.keys ∨ ∃ spelling ∈ raw.keys, normalizeKey? spelling = some key

variable {α : Type}

/-- The keys of a map ascend. -/
theorem KeyMap.ascending_keys (m : KeyMap α) : m.keys.Pairwise (· < ·) :=
  List.pairwise_map.mpr m.ascending

/-- The keys that a replacement goes through are those that it touches. -/
theorem touched_touchedKeys (old raw : KeyMap α) : Touched old raw (Store.touchedKeys old raw) where
  ascending := KeyMap.ascending_keys _
  mem_iff key := by rw [Store.touchedKeys, KeyMap.mem_unionKeys, List.mem_filterMap]

/-! ### The changes -/

/-- Changes that announce a replacement: integers first, then switches, numbers and texts, each
touched key with what is read there afterwards. -/
def Announced (old raw after : Contents) (changes : List Change) : Prop :=
  ∃ ints bools floats strings : List String,
    Touched old.ints raw.ints ints ∧ Touched old.bools raw.bools bools ∧
    Touched old.floats raw.floats floats ∧ Touched old.strings raw.strings strings ∧
    changes = ints.map (after.reading .int) ++ bools.map (after.reading .bool) ++
      floats.map (after.reading .float) ++ strings.map (after.reading .text)

namespace Store

variable {s : Store} {seeds : Seeds}

/-- A replacement reads the touched keys as they stand, which is in normal form. -/
theorem From.announced_replace (h : s.From seeds) (raw : Contents) :
    Announced s.contents raw (s.replace raw).value.contents (s.replace raw).notices := by
  let after : Store := (s.replace raw).value
  have hreading (kind : Kind) (keys : List String)
      (hkeys : ∀ key ∈ keys, Touches s.contents raw key kind) :
      keys.map (after.saying kind) = keys.map (after.contents.reading kind) :=
    List.map_congr_left fun key hkey ↦
      saying_of_normal after kind (normalizeKey?_of_touches h.ordered h.kept (hkeys key hkey))
  refine ⟨_, _, _, _, touched_touchedKeys _ _, touched_touchedKeys _ _, touched_touchedKeys _ _,
    touched_touchedKeys _ _, ?_⟩
  rw [notices_replace, ← hreading .int _ fun _ ↦ id, ← hreading .bool _ fun _ ↦ id,
    ← hreading .float _ fun _ ↦ id, ← hreading .text _ fun _ ↦ id]
  rfl

/-- Restoring saved values announces the replacement. -/
theorem From.announced_restore (h : s.From seeds) (saved : Contents) :
    Announced s.contents saved (s.restore saved).value.contents (s.restore saved).notices := by
  have hnotices : (s.restore saved).notices = (s.replace saved).notices := by
    rw [restore, Told.notices_bind, Told.notices_log, List.nil_append]
  rw [hnotices]
  exact h.announced_replace saved

theorem From.announced_reset (h : s.From seeds) :
    Announced s.contents seeds.contents s.reset.value.contents s.reset.notices := by
  have hnotices : s.reset.notices = (s.replace s.seeds.contents).notices := by
    rw [reset, Told.notices_bind, Told.notices_log, List.nil_append]
  rw [hnotices, ← h.seeds_eq]
  exact h.announced_replace s.seeds.contents

end Store

end Storyline
