import Storyline.Proofs.Store.Kept

/-!
# What a replacement announces

Replacing the contents of a store announces each key that was present or is present now
(`Store.mem_touchedKeys`), with the value that it has afterwards (`Store.notices_replace`). So
nothing is announced only where one empty store takes the place of another
(`Store.replacementChanges_eq_nil_iff`).
-/

namespace Storyline

namespace KeyMap

variable {α : Type} {m : KeyMap α} {k : String}

theorem mem_keys_iff : k ∈ m.keys ↔ m.get? k ≠ none := by
  obtain ⟨es, hasc⟩ := m
  unfold keys get?
  dsimp only
  clear hasc
  induction es with
  | nil => simp
  | cons e es ih =>
    rw [lookup_cons_eq_ite, List.map_cons, List.mem_cons]
    by_cases hk : k = e.1
    · simp [hk]
    · rw [if_neg hk, ← ih]
      simp [hk]

theorem mem_keys_insert {key : String} {a : α} :
    k ∈ (m.insert key a).keys ↔ k = key ∨ k ∈ m.keys := by
  rw [mem_keys_iff, mem_keys_iff, get?_insert]
  by_cases hk : k = key <;> simp [hk]

@[simp] theorem keys_empty : (empty : KeyMap α).keys = [] := rfl

theorem keys_eq_nil_iff : m.keys = [] ↔ m = empty := by
  constructor
  · intro h
    refine ext_get? fun k ↦ ?_
    rcases hk : m.get? k with - | a
    · rfl
    · have hmem : k ∈ m.keys := mem_keys_iff.mpr (by simp [hk])
      simp [h] at hmem
  · rintro rfl
    rfl

theorem mem_keys_ofList {es : List (String × α)} : k ∈ (ofList es).keys ↔ k ∈ es.map (·.1) := by
  suffices h : ∀ (es : List (String × α)) (m : KeyMap α),
      k ∈ (es.foldl (fun m e ↦ m.insert e.1 e.2) m).keys ↔ k ∈ m.keys ∨ k ∈ es.map (·.1) by
    rw [ofList, h, keys_empty]
    simp
  intro es
  induction es with
  | nil => simp
  | cons e es ih =>
    intro m
    rw [List.foldl_cons, ih, mem_keys_insert, List.map_cons, List.mem_cons, or_assoc, or_left_comm]

theorem mem_unionKeys {ks ls : List String} : k ∈ unionKeys ks ls ↔ k ∈ ks ∨ k ∈ ls := by
  rw [unionKeys, mem_keys_ofList]
  simp

/-- The keys of settled values are the normal forms of the raw ones. -/
theorem mem_keys_settle {raw : KeyMap α} {keep : String → α → α} :
    k ∈ (raw.settle keep).keys ↔ ∃ key ∈ raw.keys, normalizeKey? key = some k := by
  -- the induction is over the entries that are left, from any map settled so far
  suffices h : ∀ (es : List (String × α)) (m : KeyMap α),
      k ∈ (es.foldl (settleEntry keep) m).keys ↔
        k ∈ m.keys ∨ ∃ key ∈ es.map (·.1), normalizeKey? key = some k by
    rw [settle_eq_foldl, h, keys_empty]
    simp only [List.not_mem_nil, false_or, keys]
  intro es
  induction es with
  | nil => simp
  | cons e es ih =>
    intro m
    rw [List.foldl_cons, ih, List.map_cons]
    simp only [List.mem_cons, exists_eq_or_imp, ← or_assoc]
    refine or_congr_left ?_
    rw [settleEntry]
    rcases normalizeKey? e.1 with - | key
    · simp
    · rw [mem_keys_insert]
      simp [or_comm, eq_comm]

end KeyMap

namespace Store

variable {α : Type}

/-- A key is touched if it was present, or is present once the new values are settled. -/
theorem mem_touchedKeys {old raw : KeyMap α} (keep : String → α → α) {k : String} :
    k ∈ touchedKeys old raw ↔ k ∈ old.keys ∨ k ∈ (raw.settle keep).keys := by
  rw [touchedKeys, KeyMap.mem_unionKeys, List.mem_filterMap, KeyMap.mem_keys_settle]

/-- Nothing is touched if nothing was there and nothing comes. -/
theorem touchedKeys_eq_nil_iff {old raw : KeyMap α} (keep : String → α → α) :
    touchedKeys old raw = [] ↔ old = .empty ∧ raw.settle keep = .empty := by
  rw [← KeyMap.keys_eq_nil_iff, ← KeyMap.keys_eq_nil_iff]
  simp only [List.eq_nil_iff_forall_not_mem, mem_touchedKeys keep, not_or, forall_and]

/-- A replacement announces nothing if nothing was there and nothing comes. -/
theorem replacementChanges_eq_nil_iff {old raw : Contents} {after : Store} (rules : List Bounds) :
    replacementChanges old raw after = [] ↔ old = {} ∧ raw.settle rules = {} := by
  obtain ⟨ints, bools, floats, strings⟩ := old
  simp only [replacementChanges, List.append_eq_nil_iff, List.map_eq_nil_iff, Contents.settle,
    Contents.mk.injEq, touchedKeys_eq_nil_iff (clampBy rules),
    touchedKeys_eq_nil_iff (α := Bool) fun _ v ↦ v,
    touchedKeys_eq_nil_iff (α := Binary64) fun _ v ↦ v,
    touchedKeys_eq_nil_iff (α := String) fun _ v ↦ v]
  constructor
  · rintro ⟨⟨⟨⟨hints, hints'⟩, hbools, hbools'⟩, hfloats, hfloats'⟩, hstrings, hstrings'⟩
    exact ⟨⟨hints, hbools, hfloats, hstrings⟩, hints', hbools', hfloats', hstrings'⟩
  · rintro ⟨⟨hints, hbools, hfloats, hstrings⟩, hints', hbools', hfloats', hstrings'⟩
    exact ⟨⟨⟨⟨hints, hints'⟩, hbools, hbools'⟩, hfloats, hfloats'⟩, hstrings, hstrings'⟩

/-! ### The announcements -/

/-- Changes that are announced in a loop are announced in its order. -/
theorem notices_forIn_announce (changes : List Change) :
    (forIn changes PUnit.unit fun change _ ↦ do
      announce change
      pure (.yield PUnit.unit) : Told Change PUnit).notices = changes := by
  induction changes with
  | nil => rfl
  | cons change changes ih =>
    rw [List.forIn_cons, Told.notices_bind]
    exact congrArg (change :: ·) ih

/-- A replacement announces every key that was or is now present, with what is there now. -/
theorem notices_replace (s : Store) (raw : Contents) :
    (s.replace raw).notices = replacementChanges s.contents raw (s.replace raw).value := by
  rw [value_replace, replace, Told.notices_bind, notices_forIn_announce]
  exact List.append_nil _

/-- Restoring saved values settles them. -/
@[simp] theorem value_restore (s : Store) (saved : Contents) :
    (s.restore saved).value = { s with contents := saved.settle s.rules } := rfl

/-- What is announced when saved values are restored is read after all of them have been
replaced. -/
theorem notices_restore (s : Store) (saved : Contents) :
    (s.restore saved).notices = replacementChanges s.contents saved (s.restore saved).value := by
  rw [restore]
  simp only [Told.notices_bind, Told.notices_log, List.nil_append, Told.value_bind]
  exact s.notices_replace saved

end Store

end Storyline
