/-!
# Finite maps with text keys

A map is the list of its entries in strictly ascending order of the keys (by code points), so two
maps with equal contents are equal, and walking through a map visits the keys in that order.
`get?_insert` says what insertion does to look-up, and `ext_get?` that look-up determines the map.
-/

namespace Storyline

/-- A finite map from texts, its entries in ascending order of the keys. -/
structure KeyMap (α : Type) where
  /-- The entries. -/
  entries : List (String × α)
  /-- Each key is below all that follow it. -/
  ascending : entries.Pairwise (·.1 < ·.1)

namespace KeyMap

variable {α β : Type}

instance [DecidableEq α] : DecidableEq (KeyMap α) := fun a b ↦
  decidable_of_iff (a.entries = b.entries) (by cases a; cases b; simp)

/-- The map without entries. -/
def empty : KeyMap α := ⟨[], .nil⟩

instance : Inhabited (KeyMap α) := ⟨empty⟩

/-- The number of entries. -/
def size (m : KeyMap α) : Nat := m.entries.length

/-- The keys, in ascending order. -/
def keys (m : KeyMap α) : List String := m.entries.map (·.1)

/-- The value at a key. -/
def get? (m : KeyMap α) (key : String) : Option α := m.entries.lookup key

/-- Whether there is an entry at a key. -/
def contains (m : KeyMap α) (key : String) : Bool := (m.get? key).isSome

/-- Puts an entry at its place in an ascending list, over an entry with the same key. -/
def insertEntry (key : String) (a : α) : List (String × α) → List (String × α)
  | [] => [(key, a)]
  | e :: es =>
    if key < e.1 then (key, a) :: e :: es
    else if e.1 < key then e :: insertEntry key a es
    else (key, a) :: es

theorem mem_insertEntry {key : String} {a : α} {e : String × α} {es : List (String × α)}
    (h : e ∈ insertEntry key a es) : e = (key, a) ∨ e ∈ es := by
  induction es with
  | nil => simpa [insertEntry] using h
  | cons d ds ih =>
    unfold insertEntry at h
    split at h
    · simpa using h
    · split at h
      · rcases List.mem_cons.mp h with rfl | h
        · exact .inr (by simp)
        · exact (ih h).imp_right (List.mem_cons_of_mem _)
      · exact (List.mem_cons.mp h).imp_right (List.mem_cons_of_mem _)

theorem eq_of_not_lt {s t : String} (h : ¬ s < t) (h' : ¬ t < s) : s = t :=
  String.le_antisymm (String.not_lt.mp h') (String.not_lt.mp h)

theorem ascending_insertEntry {key : String} {a : α} {es : List (String × α)}
    (h : es.Pairwise (·.1 < ·.1)) : (insertEntry key a es).Pairwise (·.1 < ·.1) := by
  induction es with
  | nil => simp [insertEntry]
  | cons d ds ih =>
    have ⟨hd, hds⟩ := List.pairwise_cons.mp h
    unfold insertEntry
    split
    · rename_i hk
      refine List.pairwise_cons.mpr ⟨fun e he ↦ ?_, h⟩
      rcases List.mem_cons.mp he with rfl | he
      · exact hk
      · exact String.lt_trans hk (hd e he)
    · rename_i hk
      split
      · rename_i hk'
        refine List.pairwise_cons.mpr ⟨fun e he ↦ ?_, ih hds⟩
        rcases mem_insertEntry he with rfl | he
        · exact hk'
        · exact hd e he
      · rename_i hk'
        have heq := eq_of_not_lt hk hk'
        exact List.pairwise_cons.mpr ⟨fun e he ↦ heq ▸ hd e he, hds⟩

/-- The map with an entry at a key, whatever stood there before. -/
def insert (m : KeyMap α) (key : String) (a : α) : KeyMap α :=
  ⟨insertEntry key a m.entries, ascending_insertEntry m.ascending⟩

/-- The map with an entry at a key, unless there is one already. -/
def insertIfAbsent (m : KeyMap α) (key : String) (a : α) : KeyMap α :=
  if m.contains key then m else m.insert key a

/-- The map of a list of entries; of several with one key the last counts. -/
def ofList (es : List (String × α)) : KeyMap α := es.foldl (fun m e ↦ m.insert e.1 e.2) empty

/-- The keys of both lists in ascending order, each once. -/
def unionKeys (ks ls : List String) : List String :=
  (ofList ((ks ++ ls).map fun k ↦ (k, ()))).keys

@[simp] theorem get?_empty (key : String) : (empty : KeyMap α).get? key = none := rfl

theorem lookup_cons_eq_ite {κ : Type} [BEq κ] [LawfulBEq κ] [DecidableEq κ] (k : κ) (e : κ × α)
    (es : List (κ × α)) :
    (e :: es).lookup k = if k = e.1 then some e.2 else es.lookup k := by
  obtain ⟨l, a⟩ := e
  by_cases h : k = l
  · rw [List.lookup_cons, if_pos h, beq_iff_eq.mpr h]
  · rw [List.lookup_cons, if_neg h, beq_eq_false_iff_ne.mpr h]

theorem lookup_insertEntry (key k : String) (a : α) (es : List (String × α)) :
    (insertEntry key a es).lookup k = if k = key then some a else es.lookup k := by
  induction es with
  | nil => simp [insertEntry, lookup_cons_eq_ite]
  | cons e es ih =>
    unfold insertEntry
    split
    · simp [lookup_cons_eq_ite]
    · split
      · rename_i h
        have hne : e.1 ≠ key := fun hk ↦ String.lt_irrefl _ (hk ▸ h)
        simp only [lookup_cons_eq_ite, ih]
        grind
      · rename_i h h'
        simp only [lookup_cons_eq_ite, eq_of_not_lt h h']
        grind

theorem get?_insert (m : KeyMap α) (key k : String) (a : α) :
    (m.insert key a).get? k = if k = key then some a else m.get? k :=
  lookup_insertEntry key k a m.entries

/-! ### Maps with equal look-up -/

theorem lookup_eq_none_of_lt {key : String} {es : List (String × α)} (h : ∀ e ∈ es, key < e.1) :
    es.lookup key = none := by
  induction es with
  | nil => rfl
  | cons e es ih =>
    have hne : key ≠ e.1 := fun hk ↦ String.lt_irrefl _ (hk ▸ h e (by simp))
    rw [lookup_cons_eq_ite, if_neg hne, ih fun d hd ↦ h d (by simp [hd])]

/-- A key that ascending entries have is not below the first of them. -/
theorem not_lt_of_lookup_eq_some {key : String} {a : α} {d : String × α} {ds : List (String × α)}
    (hd : ∀ f ∈ ds, d.1 < f.1) (h : (d :: ds).lookup key = some a) : ¬ key < d.1 := by
  intro hlt
  rw [lookup_eq_none_of_lt] at h
  · simp at h
  · intro f hf
    rcases List.mem_cons.mp hf with rfl | hf
    · exact hlt
    · exact String.lt_trans hlt (hd f hf)

theorem eq_of_lookup_eq {es ds : List (String × α)} (hes : es.Pairwise (·.1 < ·.1))
    (hds : ds.Pairwise (·.1 < ·.1)) (h : ∀ k, es.lookup k = ds.lookup k) : es = ds := by
  induction es generalizing ds with
  | nil =>
    cases ds with
    | nil => rfl
    | cons d ds => simpa [lookup_cons_eq_ite] using h d.1
  | cons e es ih =>
    cases ds with
    | nil => simpa [lookup_cons_eq_ite] using h e.1
    | cons d ds =>
      have ⟨he, hes⟩ := List.pairwise_cons.mp hes
      have ⟨hd, hds⟩ := List.pairwise_cons.mp hds
      have hkey : e.1 = d.1 := eq_of_not_lt
        (not_lt_of_lookup_eq_some hd (a := e.2) (by simp [← h, lookup_cons_eq_ite]))
        (not_lt_of_lookup_eq_some he (a := d.2) (by simp [h, lookup_cons_eq_ite]))
      have hvalue : e.2 = d.2 := by simpa [lookup_cons_eq_ite, hkey] using h e.1
      have htail : es = ds := ih hes hds fun k ↦ by
        by_cases hk : k = e.1
        · rw [lookup_eq_none_of_lt (hk ▸ he), lookup_eq_none_of_lt (hk ▸ hkey ▸ hd)]
        · simpa [lookup_cons_eq_ite, hk, hkey ▸ hk] using h k
      rw [Prod.ext hkey hvalue, htail]

theorem ext_get? {m n : KeyMap α} (h : ∀ key, m.get? key = n.get? key) : m = n := by
  cases m
  cases n
  simpa using eq_of_lookup_eq ‹_› ‹_› h

/-- Inserting ascending entries puts each of them where it was. -/
theorem get?_foldl_insert {es : List (String × α)} (hasc : es.Pairwise (·.1 < ·.1)) (m : KeyMap α)
    (k : String) :
    (es.foldl (fun m e ↦ m.insert e.1 e.2) m).get? k = (es.lookup k).or (m.get? k) := by
  induction es generalizing m with
  | nil => simp
  | cons e es ih =>
    have ⟨he, hasc⟩ := List.pairwise_cons.mp hasc
    rw [List.foldl_cons, ih hasc, get?_insert, lookup_cons_eq_ite]
    -- the entries behind `e` have greater keys, so none of them takes its place
    split
    · subst k
      rw [lookup_eq_none_of_lt he]
      rfl
    · rfl

/-- The entries of a map make up the map. -/
theorem ofList_entries (m : KeyMap α) : ofList m.entries = m := by
  refine ext_get? fun k ↦ ?_
  rw [ofList, get?_foldl_insert m.ascending, get?_empty, Option.or_none]
  rfl

end KeyMap

end Storyline
