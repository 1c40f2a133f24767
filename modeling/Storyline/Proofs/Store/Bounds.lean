import Storyline.Store.Basic

/-!
# Bounds applied in turn

The rules for a key are applied one after the other. However many there are, and however they lie
to each other, together they act as a single pair of bounds (`exists_foldl_clamp_eq`), as long as
each of them has its ends in the right order. So applying them to a value that has passed them
changes nothing (`clampBy_clampBy`), and they keep the order of values (`clampBy_mono`).

The built-in rule for `sanity` comes first. What it does to a value is therefore undone or not by
the rules behind it: all that is known of a value that has passed all rules is that it lies between
what they make of 0 and of 100 (`Store.clampBy_rulesOf_sanity_mem`).
-/

namespace Storyline

namespace Bounds

/-- The least value is not above the greatest. -/
def Ordered (b : Bounds) : Prop := b.min ≤ b.max

instance (b : Bounds) : Decidable b.Ordered := inferInstanceAs (Decidable (b.min ≤ b.max))

/-- Clamping to ordered bounds takes the value in the middle. -/
theorem toInt_clamp {b : Bounds} (h : b.Ordered) (v : Int32) :
    (b.clamp v).toInt = Max.max b.min.toInt (Min.min v.toInt b.max.toInt) := by
  rw [Ordered, Int32.le_iff_toInt_le] at h
  simp only [clamp, Int32.lt_iff_toInt_lt]
  split
  · omega
  · split <;> omega

/-- A value within ordered bounds stays where it is. -/
theorem clamp_clamp {b : Bounds} (h : b.Ordered) (v : Int32) : b.clamp (b.clamp v) = b.clamp v := by
  rw [← Int32.toInt_inj, toInt_clamp h, toInt_clamp h]
  omega

/-- Clamping does not change the order of two values. -/
theorem clamp_mono {b : Bounds} (h : b.Ordered) {v w : Int32} (hvw : v ≤ w) :
    b.clamp v ≤ b.clamp w := by
  rw [Int32.le_iff_toInt_le] at hvw ⊢
  rw [toInt_clamp h, toInt_clamp h]
  omega

/-- A clamped value lies within the bounds. -/
theorem clamp_mem {b : Bounds} (h : b.Ordered) (v : Int32) :
    b.min ≤ b.clamp v ∧ b.clamp v ≤ b.max := by
  rw [Int32.le_iff_toInt_le, Int32.le_iff_toInt_le, toInt_clamp h]
  rw [Ordered, Int32.le_iff_toInt_le] at h
  omega

/-- Two bounds, one applied after the other, act as the bounds between the clamped ends of the
first. -/
theorem clamp_comp {b c : Bounds} (hb : b.Ordered) (hc : c.Ordered) (v : Int32) :
    c.clamp (b.clamp v) = (⟨b.key, c.clamp b.min, c.clamp b.max⟩ : Bounds).clamp v := by
  have hends : (⟨b.key, c.clamp b.min, c.clamp b.max⟩ : Bounds).Ordered := clamp_mono hc hb
  rw [← Int32.toInt_inj, toInt_clamp hc, toInt_clamp hb, toInt_clamp hends, toInt_clamp hc,
    toInt_clamp hc]
  rw [Ordered, Int32.le_iff_toInt_le] at hb hc
  omega

/-- Bounds that are put in force are ordered. -/
theorem ordered_of_normalize? {b rule : Bounds} (h : b.normalize? = some rule) : rule.Ordered := by
  unfold normalize? at h
  split at h
  · split at h
    · rename_i hle
      cases h
      exact hle
    · cases h
  · cases h

end Bounds

/-- Rules applied in turn act as a single one. -/
theorem exists_foldl_clamp_eq {rules : List Bounds} (h : ∀ b ∈ rules, b.Ordered) :
    ∃ c : Bounds, c.Ordered ∧ ∀ v, rules.foldl (fun v b ↦ b.clamp v) v = c.clamp v := by
  induction rules with
  | nil =>
    -- no rule is a rule that allows every value
    have hall : (⟨"", Int32.minValue, Int32.maxValue⟩ : Bounds).Ordered := by decide
    refine ⟨_, hall, fun v ↦ ?_⟩
    have hmin : Int32.minValue.toInt ≤ v.toInt := v.minValue_le_toInt
    have hmax : v.toInt ≤ Int32.maxValue.toInt := Int32.le_iff_toInt_le.mp v.le_maxValue
    rw [List.foldl_nil, ← Int32.toInt_inj, Bounds.toInt_clamp hall]
    dsimp only
    omega
  | cons b rules ih =>
    obtain ⟨c, hc, hfold⟩ := ih fun d hd ↦ h d (List.mem_cons_of_mem _ hd)
    have hb := h b List.mem_cons_self
    refine ⟨⟨b.key, c.clamp b.min, c.clamp b.max⟩, Bounds.clamp_mono hc hb, fun v ↦ ?_⟩
    rw [List.foldl_cons, hfold, Bounds.clamp_comp hb hc]

/-- A value that has passed the rules for a key passes them unchanged. -/
theorem clampBy_clampBy {rules : List Bounds} (h : ∀ b ∈ rules, b.Ordered) (key : String)
    (v : Int32) : clampBy rules key (clampBy rules key v) = clampBy rules key v := by
  have hordered : ∀ b ∈ rules.filter (·.key = key), b.Ordered := fun b hb ↦
    h b (List.mem_filter.mp hb).1
  obtain ⟨c, hc, hfold⟩ := exists_foldl_clamp_eq hordered
  simp only [clampBy, hfold, Bounds.clamp_clamp hc]

/-- The rules for a key keep the order of values. -/
theorem clampBy_mono {rules : List Bounds} (h : ∀ b ∈ rules, b.Ordered) (key : String)
    {v w : Int32} (hvw : v ≤ w) : clampBy rules key v ≤ clampBy rules key w := by
  have hordered : ∀ b ∈ rules.filter (·.key = key), b.Ordered := fun b hb ↦
    h b (List.mem_filter.mp hb).1
  obtain ⟨c, hc, hfold⟩ := exists_foldl_clamp_eq hordered
  simp only [clampBy, hfold]
  exact Bounds.clamp_mono hc hvw

namespace Store

/-- The rules that seeds put in force are ordered. -/
theorem ordered_of_mem_rulesOf {α : Type} {bounds : List Bounds} :
    ∀ b ∈ (rulesOf bounds : Told α (List Bounds)).value, b.Ordered := by
  refine Told.foldlM_keeps (P := fun rules : List Bounds ↦ ∀ b ∈ rules, b.Ordered)
    (fun rules b h ↦ ?_) (by simp [Bounds.Ordered, Bounds.sanity]) bounds
  rcases hb : b.normalize? with - | rule
  · exact h
  · intro d hd
    rcases List.mem_append.mp hd with hd | hd
    · exact h d hd
    · rw [List.mem_singleton.mp hd]
      exact Bounds.ordered_of_normalize? hb

/-! ### The built-in rule -/

/-- The built-in rule comes first. -/
theorem exists_rulesOf_eq {α : Type} (bounds : List Bounds) :
    ∃ extra, (rulesOf bounds : Told α (List Bounds)).value = Bounds.sanity :: extra := by
  refine Told.foldlM_keeps (P := fun rules : List Bounds ↦ ∃ extra, rules = Bounds.sanity :: extra)
    (fun rules b h ↦ ?_) ⟨[], rfl⟩ bounds
  obtain ⟨extra, rfl⟩ := h
  rcases b.normalize? with - | rule
  · exact ⟨extra, rfl⟩
  · exact ⟨extra ++ [rule], rfl⟩

/-- A value of `sanity` that has passed all rules lies between what they make of 0 and of 100. -/
theorem clampBy_rulesOf_sanity_mem {α : Type} {bounds rules : List Bounds}
    (hrules : rules = (rulesOf bounds : Told α (List Bounds)).value) (v : Int32) :
    clampBy rules "sanity" 0 ≤ clampBy rules "sanity" v ∧
      clampBy rules "sanity" v ≤ clampBy rules "sanity" 100 := by
  have hordered : ∀ b ∈ rules, b.Ordered := by
    rw [hrules]
    exact ordered_of_mem_rulesOf
  have hbuiltIn : clampBy rules "sanity" v = clampBy rules "sanity" (Bounds.sanity.clamp v) := by
    obtain ⟨extra, hextra⟩ := exists_rulesOf_eq (α := α) bounds
    have hcons (u : Int32) : clampBy (Bounds.sanity :: extra) "sanity" u =
        clampBy extra "sanity" (Bounds.sanity.clamp u) := by
      rw [clampBy, List.filter_cons_of_pos (by decide)]
      rfl
    rw [hrules, hextra, hcons, hcons, Bounds.clamp_clamp (by decide)]
  obtain ⟨hmin, hmax⟩ := Bounds.clamp_mem (b := Bounds.sanity) (by decide) v
  rw [hbuiltIn]
  exact ⟨clampBy_mono hordered _ hmin, clampBy_mono hordered _ hmax⟩

end Store

end Storyline
