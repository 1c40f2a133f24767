import Storyline.Store.Key

/-!
# Folding a name twice

A folded name is its own folded form (`foldName_foldName`), so a normal key stands for itself
(`normalizeKey?_of_eq_some`). Two facts carry this.

* Lower case is settled: no character that the lower-case mapping leads to is moved by it again.
  For the table this is a fact about pairs of runs, `CaseRun.avoids`, which is checked once by
  evaluation.
* A character that is not blank has no blank among its lower-case characters, so the ends of a
  trimmed text stay ends of a trimmed text.
-/

namespace Storyline.Text

/-! ### Runs of the table -/

namespace CaseRun

/-- The image of a code point of the run. -/
def image (r : CaseRun) (n : Nat) : Nat := (n + r.shift).toNat

/-- Whether no image under `r` belongs to the run `q`: the images lie to one side of `q`, or both
advance by even steps from starts of different parity, or each image is looked at. -/
def avoids (r q : CaseRun) : Bool :=
  (r.image r.last).blt q.first || q.last.blt (r.image r.first) ||
    (0 < r.image r.first && r.step % 2 == 0 && q.step % 2 == 0 &&
      (r.image r.first + q.first) % 2 == 1) ||
    (List.range ((r.last - r.first) / r.step + 1)).all fun i ↦
      !q.covers (r.image (r.first + r.step * i))

/-- A run covers every so many code points between two bounds. -/
theorem covers_iff {r : CaseRun} {n : Nat} :
    r.covers n = true ↔ r.first ≤ n ∧ n ≤ r.last ∧ (n - r.first) % r.step = 0 := by
  simp [covers, and_assoc]

/-- A code point of a run, by its number in the run. -/
theorem exists_eq_of_covers {r : CaseRun} {n : Nat} (h : r.covers n = true) :
    ∃ i ≤ (r.last - r.first) / r.step, n = r.first + r.step * i := by
  obtain ⟨hfirst, hlast, hmod⟩ := covers_iff.mp h
  refine ⟨(n - r.first) / r.step, Nat.div_le_div_right (by omega), ?_⟩
  have := Nat.div_add_mod (n - r.first) r.step
  omega

theorem image_mono (r : CaseRun) {m n : Nat} (h : m ≤ n) : r.image m ≤ r.image n := by
  unfold image
  omega

/-- A run that avoids another one leads nowhere into it. -/
theorem not_covers_of_avoids {r q : CaseRun} {n : Nat} (h : r.avoids q = true)
    (hr : r.covers n = true) : q.covers (r.image n) = false := by
  rw [Bool.eq_false_iff]
  intro hq
  obtain ⟨hfirst, hlast, -⟩ := covers_iff.mp hr
  obtain ⟨hqfirst, hqlast, -⟩ := covers_iff.mp hq
  obtain ⟨i, hi, rfl⟩ := exists_eq_of_covers hr
  simp only [avoids, Bool.or_eq_true, Bool.and_eq_true, Nat.blt_eq, beq_iff_eq,
    decide_eq_true_eq] at h
  rcases h with ((h | h) | ⟨⟨⟨hpos, hstep⟩, hqstep⟩, hodd⟩) | h
  · exact absurd (r.image_mono hlast) (by omega)
  · exact absurd (r.image_mono hfirst) (by omega)
  · -- an image has the parity of the first image, a member of `q` that of its first code point
    obtain ⟨j, -, hj⟩ := exists_eq_of_covers hq
    have hri : (r.step * i) % 2 = 0 := by simp [Nat.mul_mod, hstep]
    have hqj : (q.step * j) % 2 = 0 := by simp [Nat.mul_mod, hqstep]
    unfold image at hj hodd hpos
    omega
  · have := List.all_eq_true.mp h i (List.mem_range.mpr (by omega))
    simp [hq] at this

end CaseRun

/-- The blank characters, as spans. -/
def blankSpans : List CodeSpan :=
  [ (0x09, 0x0D), (0x20, 0x20), (0x85, 0x85), (0xA0, 0xA0), (0x1680, 0x1680), (0x2000, 0x200A),
    (0x2028, 0x2029), (0x202F, 0x202F), (0x205F, 0x205F), (0x3000, 0x3000) ]

/-- The blanks are listed as spans. -/
theorem isBlank_eq_inSpans (c : Char) : isBlank c = inSpans blankSpans c.toNat := by
  rw [Bool.eq_iff_iff]
  simp only [isBlank, inSpans, blankSpans, List.any_cons, List.any_nil, Bool.or_eq_true,
    Bool.and_eq_true, decide_eq_true_eq, beq_iff_eq, Bool.false_eq_true, or_false]
  omega

/-- Images of the lower-case mapping belong to no run of it. -/
theorem lowerRuns_avoid : (lowerRuns.all fun r ↦ lowerRuns.all r.avoids) = true := by
  decide +kernel

/-- Images of the lower-case mapping are neither blank nor the character U+0130. -/
theorem lowerRuns_avoid_blank : (lowerRuns.all fun r ↦ ((0x130, 0x130) :: blankSpans).all fun s ↦
    (r.image r.last).blt s.1 || s.2.blt (r.image r.first)) = true := by
  decide +kernel

/-- The lower-case mapping moves nothing that stands before the capital letters. -/
theorem lowerRuns_from_capitals : (lowerRuns.all fun r ↦ Nat.ble 0x41 r.first) = true := by
  decide +kernel

/-! ### Characters in lower case -/

/-- A character that the lower-case mapping leaves where it is. -/
def IsLower (c : Char) : Prop := (∀ r ∈ lowerRuns, r.covers c.toNat = false) ∧ c.toNat ≠ 0x130

instance (c : Char) : Decidable (IsLower c) :=
  decidable_of_iff (((lowerRuns.all fun r ↦ !r.covers c.toNat) && c.toNat != 0x130) = true)
    (by simp [IsLower])

/-- What comes before the capital letters is lower case. -/
theorem isLower_of_toNat_lt {c : Char} (h : c.toNat < 0x41) : IsLower c := by
  refine ⟨fun r hr ↦ Bool.eq_false_iff.mpr fun hcovers ↦ ?_, by omega⟩
  have hcapital : 0x41 ≤ r.first :=
    Nat.le_of_ble_eq_true (List.all_eq_true.mp lowerRuns_from_capitals r hr)
  have hfirst := (CaseRun.covers_iff.mp hcovers).1
  omega

/-- A code point that no run covers is not shifted. -/
theorem shiftBy_of_not_covers {runs : List CaseRun} {n : Nat}
    (h : ∀ r ∈ runs, r.covers n = false) : shiftBy runs n = n := by
  have hnone : runs.find? (·.covers n) = none :=
    List.find?_eq_none.mpr fun r hr ↦ by simp [h r hr]
  rw [shiftBy, hnone]

/-- A character in lower case is lowered to itself. -/
theorem lowerChar_of_isLower {c : Char} (h : IsLower c) : lowerChar c = [c] := by
  rw [lowerChar, if_neg h.2, shiftBy_of_not_covers h.1, Char.ofNat_toNat]

theorem ne_sigma_of_isLower {c : Char} (h : IsLower c) : c ≠ 'Σ' := by
  rintro rfl
  exact absurd h (by decide +kernel)

/-- A character moves by a run that covers it, becomes the two characters of U+0130, or stays. -/
theorem lowerChar_cases (c : Char) :
    (∃ r ∈ lowerRuns, r.covers c.toNat = true ∧ lowerChar c = [Char.ofNat (r.image c.toNat)]) ∨
    lowerChar c = ['i', Char.ofNat 0x307] ∨ IsLower c := by
  by_cases hdot : c.toNat = 0x130
  · exact .inr (.inl (if_pos hdot))
  · rcases hfind : lowerRuns.find? (·.covers c.toNat) with - | r
    · refine .inr (.inr ⟨fun r hr ↦ ?_, hdot⟩)
      simpa using List.find?_eq_none.mp hfind r hr
    · refine .inl ⟨r, List.mem_of_find?_eq_some hfind, by simpa using List.find?_some hfind, ?_⟩
      rw [lowerChar, if_neg hdot, shiftBy, hfind]
      rfl

/-- The code point of a character that is given by a number. -/
theorem toNat_ofNat_eq_or (n : Nat) : (Char.ofNat n).toNat = n ∨ Char.ofNat n = '\x00' := by
  by_cases h : n.isValidChar
  · rw [Char.ofNat, dif_pos h]
    exact .inl rfl
  · exact .inr (by rw [Char.ofNat, dif_neg h]; rfl)

/-- What a run leads to is in lower case. -/
theorem isLower_image {r : CaseRun} {n : Nat} (hr : r ∈ lowerRuns) (hn : r.covers n = true) :
    IsLower (Char.ofNat (r.image n)) := by
  obtain ⟨hfirst, hlast, -⟩ := CaseRun.covers_iff.mp hn
  rcases toNat_ofNat_eq_or (r.image n) with h | h
  · refine ⟨fun q hq ↦ ?_, ?_⟩
    · rw [h]
      exact CaseRun.not_covers_of_avoids
        (List.all_eq_true.mp (List.all_eq_true.mp lowerRuns_avoid r hr) q hq) hn
    · have hdot := List.all_eq_true.mp (List.all_eq_true.mp lowerRuns_avoid_blank r hr)
        (0x130, 0x130) (by simp)
      have := r.image_mono hfirst
      have := r.image_mono hlast
      simp only [Bool.or_eq_true, Nat.blt_eq] at hdot
      omega
  · rw [h]
    decide +kernel

/-- What a run leads to is no blank. -/
theorem isBlank_image {r : CaseRun} {n : Nat} (hr : r ∈ lowerRuns) (hn : r.covers n = true) :
    isBlank (Char.ofNat (r.image n)) = false := by
  obtain ⟨hfirst, hlast, -⟩ := CaseRun.covers_iff.mp hn
  rcases toNat_ofNat_eq_or (r.image n) with h | h
  · rw [isBlank_eq_inSpans, h, inSpans, List.any_eq_false]
    intro s hs
    have hside := List.all_eq_true.mp (List.all_eq_true.mp lowerRuns_avoid_blank r hr) s
      (List.mem_cons_of_mem _ hs)
    have := r.image_mono hfirst
    have := r.image_mono hlast
    simp only [Bool.or_eq_true, Nat.blt_eq] at hside
    simp only [Bool.and_eq_true, decide_eq_true_eq]
    omega
  · rw [h]
    decide

/-- A character is lowered to characters in lower case. -/
theorem isLower_of_mem_lowerChar {c d : Char} (h : d ∈ lowerChar c) : IsLower d := by
  rcases lowerChar_cases c with ⟨r, hr, hcovers, hc⟩ | hc | hc
  · rw [hc, List.mem_singleton] at h
    exact h ▸ isLower_image hr hcovers
  · rw [hc, List.mem_cons, List.mem_singleton] at h
    rcases h with rfl | rfl
    · decide +kernel
    · decide +kernel
  · rw [lowerChar_of_isLower hc, List.mem_singleton] at h
    exact h ▸ hc

/-- A character that is no blank is not lowered to one. -/
theorem isBlank_of_mem_lowerChar {c d : Char} (hc : isBlank c = false) (h : d ∈ lowerChar c) :
    isBlank d = false := by
  rcases lowerChar_cases c with ⟨r, hr, hcovers, hlower⟩ | hlower | hlower
  · rw [hlower, List.mem_singleton] at h
    exact h ▸ isBlank_image hr hcovers
  · rw [hlower, List.mem_cons, List.mem_singleton] at h
    rcases h with rfl | rfl
    · rfl
    · rfl
  · rw [lowerChar_of_isLower hlower, List.mem_singleton] at h
    exact h ▸ hc

theorem lowerChar_ne_nil (c : Char) : lowerChar c ≠ [] := by
  rcases lowerChar_cases c with ⟨r, -, -, h⟩ | h | h
  · simp [h]
  · simp [h]
  · simp [lowerChar_of_isLower h]

/-! ### Texts in lower case -/

/-- What the first character becomes, sigma included. -/
theorem exists_lowerFrom_cons (before : List Char) (c : Char) (cs : List Char) :
    ∃ img, lowerFrom before (c :: cs) = img ++ lowerFrom (c :: before) cs ∧ img ≠ [] ∧
      (∀ d ∈ img, IsLower d) ∧ (isBlank c = false → ∀ d ∈ img, isBlank d = false) := by
  have hfinal : IsLower 'ς' := by decide +kernel
  have hinner : IsLower 'σ' := by decide +kernel
  refine ⟨_, rfl, ?_⟩
  split
  · split
    · exact ⟨List.cons_ne_nil _ _, List.forall_mem_singleton.mpr hfinal,
        fun _ ↦ List.forall_mem_singleton.mpr rfl⟩
    · exact ⟨List.cons_ne_nil _ _, List.forall_mem_singleton.mpr hinner,
        fun _ ↦ List.forall_mem_singleton.mpr rfl⟩
  · exact ⟨lowerChar_ne_nil c, fun d ↦ isLower_of_mem_lowerChar,
      fun hc d ↦ isBlank_of_mem_lowerChar hc⟩

theorem isLower_of_mem_lowerFrom {d : Char} :
    ∀ {cs before : List Char}, d ∈ lowerFrom before cs → IsLower d
  | c :: cs, before, h => by
    obtain ⟨img, himg, -, hlower, -⟩ := exists_lowerFrom_cons before c cs
    rw [himg, List.mem_append] at h
    exact h.elim (hlower d) isLower_of_mem_lowerFrom

/-- A text in lower case is lowered to itself. -/
theorem lowerFrom_of_isLower {cs : List Char} (h : ∀ c ∈ cs, IsLower c) (before : List Char) :
    lowerFrom before cs = cs := by
  induction cs generalizing before with
  | nil => rfl
  | cons c cs ih =>
    have hc := h c List.mem_cons_self
    rw [lowerFrom, if_neg (ne_sigma_of_isLower hc), lowerChar_of_isLower hc,
      ih fun d hd ↦ h d (List.mem_cons_of_mem _ hd)]
    rfl

/-- Lowering a text twice is lowering it once. -/
theorem lowerChars_lowerChars (cs : List Char) : lowerChars (lowerChars cs) = lowerChars cs :=
  lowerFrom_of_isLower (fun _ ↦ isLower_of_mem_lowerFrom) []

/-! ### Trimmed texts -/

/-- Neither the first nor the last character is blank. -/
def Trimmed (cs : List Char) : Prop :=
  (∀ c ∈ cs.head?, isBlank c = false) ∧ ∀ c ∈ cs.getLast?, isBlank c = false

instance (cs : List Char) : Decidable (Trimmed cs) := inferInstanceAs (Decidable (_ ∧ _))

theorem trimEnd_cons_of_ne_nil {c : Char} {cs : List Char} (h : trimEnd cs ≠ []) :
    trimEnd (c :: cs) = c :: trimEnd cs := by
  rw [trimEnd]
  split
  · exact absurd ‹_› h
  · simp_all

theorem trimEnd_cons_of_eq_nil {c : Char} {cs : List Char} (h : trimEnd cs = []) :
    trimEnd (c :: cs) = if isBlank c then [] else [c] := by
  rw [trimEnd, h]

theorem isBlank_getLast?_trimEnd {cs : List Char} :
    ∀ c ∈ (trimEnd cs).getLast?, isBlank c = false := by
  induction cs with
  | nil => simp [trimEnd]
  | cons d ds ih =>
    by_cases h : trimEnd ds = []
    · rw [trimEnd_cons_of_eq_nil h]
      split <;> simp_all
    · rw [trimEnd_cons_of_ne_nil h, List.getLast?_cons_of_ne_nil h]
      exact ih

/-- Blanks at the back do not touch the first character. -/
theorem trimEnd_cons_of_not_isBlank {c : Char} (cs : List Char) (h : isBlank c = false) :
    trimEnd (c :: cs) = c :: trimEnd cs := by
  by_cases hcs : trimEnd cs = []
  · rw [trimEnd_cons_of_eq_nil hcs, hcs]
    simp [h]
  · exact trimEnd_cons_of_ne_nil hcs

theorem trimEnd_eq_self {cs : List Char} (h : ∀ c ∈ cs.getLast?, isBlank c = false) :
    trimEnd cs = cs := by
  induction cs with
  | nil => rfl
  | cons d ds ih =>
    rcases ds with - | ⟨b, bs⟩
    · exact trimEnd_cons_of_not_isBlank [] (h d rfl)
    · have hds : trimEnd (b :: bs) = b :: bs := ih fun c hc ↦ h c (by simpa using hc)
      rw [trimEnd_cons_of_ne_nil (by simp [hds]), hds]

/-- A text that is trimmed has no blank at either end. -/
theorem trimmed_trimChars (cs : List Char) : Trimmed (trimChars cs) := by
  refine ⟨?_, isBlank_getLast?_trimEnd⟩
  rw [trimChars, trimStart]
  rcases h : cs.dropWhile isBlank with - | ⟨d, ds⟩
  · simp [trimEnd]
  · have hd : isBlank d = false := by
      have := List.head?_dropWhile_not isBlank cs
      simpa [h] using this
    simpa [trimEnd_cons_of_not_isBlank ds hd] using hd

/-- Without a blank at either end, a text is trimmed to itself. -/
theorem trimChars_of_trimmed {cs : List Char} (h : Trimmed cs) : trimChars cs = cs := by
  have hstart : trimStart cs = cs := by
    rcases cs with - | ⟨c, cs⟩
    · rfl
    · simp [trimStart, h.1 c rfl]
  rw [trimChars, hstart, trimEnd_eq_self h.2]

/-- Lowering a text leaves its ends trimmed. -/
theorem trimmed_lowerFrom {cs : List Char} (h : Trimmed cs) (before : List Char) :
    Trimmed (lowerFrom before cs) := by
  refine ⟨?_, ?_⟩
  · rcases cs with - | ⟨c, cs⟩
    · simp [lowerFrom]
    · obtain ⟨img, himg, hne, -, hblank⟩ := exists_lowerFrom_cons before c cs
      obtain ⟨d, ds, rfl⟩ := List.exists_cons_of_ne_nil hne
      rw [himg]
      simpa using hblank (h.1 c rfl) d List.mem_cons_self
  · obtain ⟨-, hlast⟩ := h
    induction cs generalizing before with
    | nil => simp [lowerFrom]
    | cons c cs ih =>
      obtain ⟨img, himg, hne, -, hblank⟩ := exists_lowerFrom_cons before c cs
      rw [himg]
      rcases hcs : lowerFrom (c :: before) cs with - | ⟨d, ds⟩
      · -- nothing follows, so `c` is the last character
        have hnil : cs = [] := by
          rcases cs with - | ⟨b, bs⟩
          · rfl
          · obtain ⟨img', himg', hne', -⟩ := exists_lowerFrom_cons (c :: before) b bs
            simp [himg', hne'] at hcs
        intro d hd
        exact hblank (hlast c (by simp [hnil])) d (List.mem_of_getLast? (by simpa using hd))
      · -- the last character comes from what follows
        have hend : (img ++ d :: ds).getLast? = (d :: ds).getLast? := by
          rw [List.getLast?_append, Option.or_of_isSome (by simp)]
        rw [hend, ← hcs]
        refine ih _ fun b hb ↦ hlast b ?_
        rcases cs with - | ⟨b', bs⟩
        · simp [lowerFrom] at hcs
        · simpa using hb

/-- Nothing is left of a text that is trimmed if it is all blanks. -/
theorem trimChars_eq_nil_iff {cs : List Char} : trimChars cs = [] ↔ cs.all isBlank = true := by
  induction cs with
  | nil => simp [trimChars, trimStart, trimEnd]
  | cons c cs ih =>
    by_cases hc : isBlank c = true
    · simpa [trimChars, trimStart, hc] using ih
    · have hcons : trimChars (c :: cs) = c :: trimEnd cs := by
        rw [trimChars, trimStart, List.dropWhile_cons_of_neg hc,
          trimEnd_cons_of_not_isBlank cs (by simpa using hc)]
      simp [hcons, hc]

theorem lowerChars_eq_nil_iff {cs : List Char} : lowerChars cs = [] ↔ cs = [] := by
  rcases cs with - | ⟨c, cs⟩
  · simp [lowerChars, lowerFrom]
  · obtain ⟨img, himg, hne, -⟩ := exists_lowerFrom_cons [] c cs
    simp [lowerChars, himg, hne]

end Storyline.Text

namespace Storyline

open Text

/-! ### Folded names -/

theorem toList_foldName (name : String) :
    (foldName name).toList = lowerChars (trimChars name.toList) := by
  simp [foldName, lower, trim]

/-- A folded name has no blanks around it. -/
theorem trimmed_foldName (name : String) : Trimmed (foldName name).toList := by
  rw [toList_foldName]
  exact trimmed_lowerFrom (trimmed_trimChars _) []

/-- Folding a name twice is folding it once. -/
@[simp] theorem foldName_foldName (name : String) : foldName (foldName name) = foldName name := by
  rw [← String.toList_inj, toList_foldName, trimChars_of_trimmed (trimmed_foldName name),
    toList_foldName, lowerChars_lowerChars]

/-- Folding leaves nothing of a name only where the name was blank. -/
theorem isBlankText_foldName (name : String) : isBlankText (foldName name) = isBlankText name := by
  rw [Bool.eq_iff_iff, isBlankText, isBlankText, ← trimChars_eq_nil_iff,
    trimChars_of_trimmed (trimmed_foldName name), toList_foldName, lowerChars_eq_nil_iff,
    trimChars_eq_nil_iff]

/-! ### Normal keys -/

/-- The normal form of a key is its folded form, unless the key is blank. -/
theorem normalizeKey?_eq_some_iff {key k : String} :
    normalizeKey? key = some k ↔ isBlankText key = false ∧ foldName key = k := by
  simp [normalizeKey?]

/-- The key that a spelling stands for is its own normal form. -/
theorem normalizeKey?_of_eq_some {key k : String} (h : normalizeKey? key = some k) :
    normalizeKey? k = some k := by
  obtain ⟨hblank, rfl⟩ := normalizeKey?_eq_some_iff.mp h
  exact normalizeKey?_eq_some_iff.mpr ⟨by rwa [isBlankText_foldName], foldName_foldName key⟩

end Storyline
