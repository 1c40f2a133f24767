import Storyline.Proofs.Store.Kept

/-!
# Spellings of one key

Seeds and saved values stand under keys in any spelling. When they are settled, several spellings
of one key meet under its normal form, and it is the order of the keys that decides between them:
the value that is kept is that of the last spelling (`KeyMap.get?_settle`). An entry that is added
under the normal form therefore gives way to the spellings above it and takes the place of those
below it (`KeyMap.lastSpelling?_insertIfAbsent`).
-/

namespace Storyline

namespace KeyMap

variable {α : Type} {m : KeyMap α} {keep : String → α → α}

/-- The entries of which the keys are spellings of a normal one, in ascending order. -/
def spellings (m : KeyMap α) (key : String) : List (String × α) :=
  m.entries.filter fun e ↦ normalizeKey? e.1 = some key

/-- The last of them. -/
def lastSpelling? (m : KeyMap α) (key : String) : Option (String × α) := (m.spellings key).getLast?

/-- Of all entries that settle under a key, the last one counts. -/
theorem get?_settle (raw : KeyMap α) (keep : String → α → α) (key : String) :
    (raw.settle keep).get? key = (raw.lastSpelling? key).map (keep key ·.2) := by
  suffices h : ∀ (es : List (String × α)) (m : KeyMap α),
      (es.foldl (settleEntry keep) m).get? key =
        ((es.filter fun e ↦ normalizeKey? e.1 = some key).getLast?.map (keep key ·.2)).or
          (m.get? key) by
    rw [settle_eq_foldl, h, get?_empty, Option.or_none]
    rfl
  intro es
  induction es with
  | nil => exact fun m ↦ rfl
  | cons e es ih =>
    intro m
    have hentry : (m.settleEntry keep e).get? key =
        if normalizeKey? e.1 = some key then some (keep key e.2) else m.get? key := by
      rw [settleEntry]
      rcases normalizeKey? e.1 with - | k
      · rfl
      · simp only [get?_insert, Option.some_inj]
        by_cases hk : k = key
        · simp [hk]
        · simp [hk, Ne.symm hk]
    rw [List.foldl_cons, ih, hentry]
    by_cases he : normalizeKey? e.1 = some key
    · rw [List.filter_cons_of_pos (by simpa using he), List.getLast?_cons, if_pos he]
      cases (es.filter fun e ↦ normalizeKey? e.1 = some key).getLast? <;> rfl
    · rw [List.filter_cons_of_neg (by simpa using he), if_neg he]

/-! ### Adding an entry under the normal form -/

variable {key : String} {a : α} {es : List (String × α)} {p : String × α → Bool}

theorem filter_of_lt {d : String × α} (h : key < d.1) : (some d).filter (key < ·.1) = some d :=
  Option.filter_some_pos (decide_eq_true h)

theorem filter_of_not_lt {d : String × α} (h : ¬key < d.1) : (some d).filter (key < ·.1) = none :=
  Option.filter_some_neg (decide_eq_false h)

/-- What is added to ascending entries is the last of a kind unless one behind it is. -/
theorem getLast?_filter_insertEntry (hasc : es.Pairwise (·.1 < ·.1)) (hp : ∀ b, p (key, b)) :
    ((insertEntry key a es).filter p).getLast? =
      some (((es.filter p).getLast?.filter (key < ·.1)).getD (key, a)) := by
  induction es with
  | nil => simp [insertEntry, hp]
  | cons e es ih =>
    obtain ⟨he, hes⟩ := List.pairwise_cons.mp hasc
    unfold insertEntry
    split
    · rename_i hlt
      have habove : ∀ d, ((e :: es).filter p).getLast? = some d → key < d.1 := by
        intro d hd
        rcases List.mem_cons.mp (List.mem_filter.mp (List.mem_of_getLast? hd)).1 with rfl | hd
        · exact hlt
        · exact String.lt_trans hlt (he d hd)
      rw [List.filter_cons_of_pos (hp a), List.getLast?_cons]
      rcases hlast : ((e :: es).filter p).getLast? with - | d
      · rfl
      · rw [filter_of_lt (habove d hlast), Option.getD_some]
    · rename_i hnlt
      split
      · rename_i hlt
        rcases hpe : p e with - | -
        · rw [List.filter_cons_of_neg (by simp [hpe]), List.filter_cons_of_neg (by simp [hpe]),
            ih hes]
        · rw [List.filter_cons_of_pos hpe, List.filter_cons_of_pos hpe, List.getLast?_cons, ih hes,
            List.getLast?_cons]
          rcases (es.filter p).getLast? with - | d
          · rw [Option.getD_none, filter_of_not_lt hnlt]
            rfl
          · rcases (some d).filter (key < ·.1) with - | b <;> rfl
      · rename_i hnlt'
        have hkey : key = e.1 := eq_of_not_lt hnlt hnlt'
        have hpe : p e := by
          have := hp e.2
          rwa [hkey] at this
        rw [List.filter_cons_of_pos (hp a), List.filter_cons_of_pos hpe, List.getLast?_cons,
          List.getLast?_cons]
        -- the entries behind `e` have greater keys, and `e` itself gives way
        rcases hlast : (es.filter p).getLast? with - | d
        · rw [Option.getD_none, Option.getD_none, filter_of_not_lt hnlt]
          rfl
        · have hd : key < d.1 := hkey ▸ he d (List.mem_filter.mp (List.mem_of_getLast? hlast)).1
          rw [Option.getD_some, Option.getD_some, filter_of_lt hd]
          rfl

theorem le_of_lt {s t : String} (h : s < t) : s ≤ t := String.not_lt.mp (String.lt_asymm h)

/-- The last of ascending entries has the greatest key. -/
theorem le_of_getLast? (hasc : es.Pairwise (·.1 < ·.1)) {d e : String × α} (he : e ∈ es)
    (hlast : es.getLast? = some d) : e.1 ≤ d.1 := by
  obtain ⟨init, rfl⟩ := List.getLast?_eq_some_iff.mp hlast
  obtain ⟨-, -, hbelow⟩ := List.pairwise_append.mp hasc
  rcases List.mem_append.mp he with he | he
  · exact le_of_lt (hbelow e he d List.mem_cons_self)
  · obtain rfl := List.mem_singleton.mp he
    exact String.le_refl _

/-- An entry that is added under the normal form of a key, unless there is one, is the last spelling
of the key unless another is at the same place or behind it. -/
theorem lastSpelling?_insertIfAbsent (hkey : normalizeKey? key = some key) (m : KeyMap α) (a : α) :
    (m.insertIfAbsent key a).lastSpelling? key =
      some (((m.lastSpelling? key).filter (key ≤ ·.1)).getD (key, a)) := by
  let p (e : String × α) : Bool := normalizeKey? e.1 = some key
  have hp (b : α) : p (key, b) := by simpa [p] using hkey
  rcases hvalue : m.get? key with - | b
  · have habsent (e : String × α) (he : e ∈ m.entries) : e.1 ≠ key := fun heq ↦ by
      rw [← heq, get?_eq_some_of_mem he] at hvalue
      cases hvalue
    rw [insertIfAbsent, if_neg (by simp [contains, hvalue])]
    refine (getLast?_filter_insertEntry m.ascending hp).trans ?_
    change some (((m.lastSpelling? key).filter (key < ·.1)).getD (key, a)) = _
    -- no spelling stands at the normal form itself
    rcases hlast : m.lastSpelling? key with - | e
    · rfl
    · have he : e.1 ≠ key := habsent e (List.mem_filter.mp (List.mem_of_getLast? hlast)).1
      have hiff : key < e.1 ↔ key ≤ e.1 :=
        ⟨le_of_lt, fun h ↦ String.not_le.mp fun h' ↦ he (String.le_antisymm h' h)⟩
      rw [Option.filter_some, Option.filter_some, decide_eq_decide.mpr hiff]
  · rw [insertIfAbsent, if_pos (by simp [contains, hvalue])]
    have hmem : (key, b) ∈ m.spellings key := by
      obtain ⟨before, after, heq, -⟩ := List.lookup_eq_some_iff.mp hvalue
      simp [spellings, heq, hkey]
    rcases hlast : m.lastSpelling? key with - | e
    · rw [List.getLast?_eq_none_iff.mp hlast] at hmem
      cases hmem
    · have hasc : (m.spellings key).Pairwise (·.1 < ·.1) := m.ascending.filter _
      have hle : key ≤ e.1 := le_of_getLast? hasc hmem hlast
      simp [Option.filter_some, hle]

end KeyMap

end Storyline
