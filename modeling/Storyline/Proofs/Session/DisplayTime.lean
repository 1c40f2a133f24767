import Mathlib.Tactic.Ring
import Storyline.Proofs.Binary.Rational
import Storyline.Proofs.Session.Closing
import Storyline.Proofs.Tree.Sound

/-!
# Authored display times

Two places judge the seconds for which a node is to stay on screen. The checks of a tree refuse
what is not finite or below zero, and the engine rounds seconds to nanoseconds, for which they also
have to stay below what a duration can express. As rationals, the seconds that pass are those with
`0 ≤ q` for the checks (`Tree.displayDuration_notMem_defects_iff`), and those with `0 ≤ q < 2 ^ 64`
for the engine (`Duration.isSome_ofSeconds?_iff`).

So the two agree on all seconds but those that are too long for a duration
(`Duration.Overlong`). These pass the checks, and the node is held for the default time instead
(`Session.held_as_authored`).
-/

namespace Storyline

namespace Duration

/-! ### Seconds as nanoseconds -/

/-- Seconds that no duration can express: a number from `2 ^ 64` on. -/
def Overlong (seconds : Binary32) : Prop := ∃ q, seconds.toRat? = some q ∧ 2 ^ 64 ≤ q

/-- A duration is so many seconds, to the nearest nanosecond. -/
def Nearest (d : Duration) (q : ℚ) : Prop := |(d.nanos : ℚ) - q * perSecond| ≤ 1 / 2

/-- The nanoseconds of `m · 2 ^ e` seconds, to the nearest one. -/
def roundedNanos (m : Nat) (e : Int) : Nat :=
  let (n, d) := scaleRatio (m * perSecond) 1 (-e)
  roundHalfEven n d

/-- Rounding to nanoseconds is off by half of one at most. -/
theorem abs_roundedNanos_sub_le (m : Nat) (e : Int) :
    |(roundedNanos m e : ℚ) - m * 2 ^ e * perSecond| ≤ 1 / 2 := by
  have hscaled := scaleRatio_div (m * perSecond) 1 (-e)
  have hquotient :
      (m : ℚ) * 2 ^ e * perSecond = ((m * perSecond : Nat) : ℚ) / (1 : Nat) * 2 ^ e := by
    push_cast
    ring
  rw [neg_neg] at hscaled
  rw [hquotient, ← hscaled]
  exact abs_roundHalfEven_sub_le _ (scaleRatio_snd_pos _ Nat.one_pos _)

/-- Where there is no fraction, nothing is rounded. -/
theorem roundedNanos_natCast (m k : Nat) : roundedNanos m k = m * 2 ^ k * perSecond := by
  rcases Nat.eq_zero_or_pos k with rfl | hk
  · simp [roundedNanos, scaleRatio, roundHalfEven_one]
  · have hneg : ¬0 ≤ -(k : Int) := by omega
    simp only [roundedNanos, scaleRatio, hneg, if_false, neg_neg, Int.toNat_natCast,
      roundHalfEven_one]
    exact Nat.mul_right_comm m perSecond (2 ^ k)

/-- The nanoseconds of a number with the mantissa of an authored one are below the limit exactly if
the seconds are. -/
theorem roundedNanos_lt_limit_iff {m : Nat} (hm : m < 2 ^ 24) (e : Int) :
    roundedNanos m e < limit ↔ (m : ℚ) * 2 ^ e < 2 ^ 64 := by
  rcases Int.le_total e 0 with he | he
  · -- without a power of two in front, the mantissa alone keeps both sides small
    have hpow : (2 : ℚ) ^ e ≤ 1 := zpow_le_one_of_nonpos₀ one_le_two he
    have hmQ : (m : ℚ) < 2 ^ 24 := by exact_mod_cast hm
    have hseconds : (m : ℚ) * 2 ^ e < 2 ^ 24 := by
      nlinarith [mul_le_mul_of_nonneg_left hpow (Nat.cast_nonneg (α := ℚ) m)]
    have hnanos := (abs_le.mp (abs_roundedNanos_sub_le m e)).2
    have hlimit : (roundedNanos m e : ℚ) < ((2 ^ 64 * perSecond : Nat) : ℚ) := by
      push_cast [perSecond] at hnanos ⊢
      linarith
    exact ⟨fun _ ↦ hseconds.trans (by norm_num), fun _ ↦ by exact_mod_cast hlimit⟩
  · obtain ⟨k, rfl⟩ := Int.eq_ofNat_of_zero_le he
    rw [roundedNanos_natCast, limit, Nat.mul_lt_mul_right (by decide), zpow_natCast]
    norm_cast

section OfSeconds

variable {x : Binary32} {q : ℚ}

/-- What is not finite is no time. -/
theorem ofSeconds?_of_not_isFinite (h : x.isFinite = false) : ofSeconds? x = none := by
  rw [ofSeconds?, Binary.value]
  simp only [h, Bool.not_false, if_true]
  rcases x.isNaN with - | - <;> rfl

theorem ofSeconds?_of_isBelowZero (h : x.isBelowZero = true) : ofSeconds? x = none := by
  rcases hfinite : x.isFinite with - | -
  · exact ofSeconds?_of_not_isFinite hfinite
  · obtain ⟨m, e, hvalue, -, hbelow⟩ := Binary.value_of_isFinite hfinite
    rw [ofSeconds?, hvalue]
    simp only [← hbelow, h, if_true]

/-- Seconds that are a number from zero on are used, to the nearest nanosecond, if they are below
`2 ^ 64`. -/
theorem ofSeconds?_spec (hq : x.toRat? = some q) (hzero : 0 ≤ q) :
    if q < 2 ^ 64 then ∃ d, ofSeconds? x = some d ∧ d.Nearest q else ofSeconds? x = none := by
  have habove : x.isBelowZero = false := by
    rw [← Bool.not_eq_true, Binary.isBelowZero_iff hq]
    exact hzero.not_gt
  obtain ⟨m, e, hvalue, hm, hbelow⟩ := Binary.value_of_isFinite (Binary.isFinite_of_toRat? hq)
  rw [habove] at hbelow
  obtain rfl : q = m * 2 ^ e :=
    Option.some.inj (hq.symm.trans (Binary.toRat?_of_not_isBelowZero hvalue hbelow.symm))
  have hlimit : roundedNanos m e < limit ↔ (m : ℚ) * 2 ^ e < 2 ^ 64 :=
    roundedNanos_lt_limit_iff hm e
  have hseconds : ofSeconds? x =
      if h : roundedNanos m e < limit then some ⟨roundedNanos m e, h⟩ else none := by
    rw [ofSeconds?, hvalue]
    simp only [← hbelow, Bool.false_eq_true, if_false]
    rfl
  rw [hseconds]
  split
  · rename_i hlt
    rw [dif_pos (hlimit.mpr hlt)]
    exact ⟨_, rfl, abs_roundedNanos_sub_le m e⟩
  · rename_i hge
    rw [dif_neg (mt hlimit.mp hge)]

/-- Seconds are used exactly if they are a number from zero on and below `2 ^ 64`. -/
theorem isSome_ofSeconds?_iff :
    (ofSeconds? x).isSome = true ↔ ∃ q, x.toRat? = some q ∧ 0 ≤ q ∧ q < 2 ^ 64 := by
  rcases hq : x.toRat? with - | q
  · have hfinite : x.isFinite = false := by rw [← Binary.isSome_toRat?, hq, Option.isSome_none]
    simp [ofSeconds?_of_not_isFinite hfinite]
  · rcases lt_or_ge q 0 with hneg | hzero
    · simp [ofSeconds?_of_isBelowZero ((Binary.isBelowZero_iff hq).mpr hneg), hneg.not_ge]
    · have hspec := ofSeconds?_spec hq hzero
      split at hspec
      · rename_i hlt
        obtain ⟨d, hd, -⟩ := hspec
        simp [hd, hzero, hlt]
      · rename_i hge
        simp [hspec, not_lt.mp hge]

/-- What the checks ask of seconds is what using them takes, if they are not too long. -/
theorem isSome_ofSeconds?_of_zero_le_iff :
    ((∃ q, x.toRat? = some q ∧ 0 ≤ q) ↔ (ofSeconds? x).isSome = true) ↔ ¬Overlong x := by
  rw [isSome_ofSeconds?_iff, Overlong]
  rcases x.toRat? with - | q
  · simp
  · simp only [Option.some.injEq, exists_eq_left', not_le]
    rcases lt_or_ge q (2 ^ 64) with hlt | hge
    · simp [hlt]
    · have hzero : 0 ≤ q := le_trans (by norm_num) hge
      simp [hge.not_gt, hzero]

end OfSeconds

end Duration

/-- A node whose seconds are a number from zero on has this time, or the default one if they are
too long. -/
theorem Node.displayTime_spec {n : Node} {s : Binary32} {q : ℚ} (hs : n.displayDuration = some s)
    (hq : s.toRat? = some q) (hzero : 0 ≤ q) (settings : Settings) :
    if q < 2 ^ 64 then (n.displayTime settings).Nearest q
    else n.displayTime settings = settings.defaultDisplay := by
  have hspec := Duration.ofSeconds?_spec hq hzero
  rw [Node.displayTime, hs, displayDuration?, Option.bind_some]
  split at hspec
  · rename_i hlt
    obtain ⟨d, hd, hnearest⟩ := hspec
    rw [if_pos hlt, hd]
    exact hnearest
  · rename_i hge
    rw [if_neg hge, hspec, Option.getD_none]

/-! ### The checks -/

/-- An authored time is reported if it is not finite or below zero. -/
theorem displayDuration_mem_defects_iff {t : Tree} {n : Node} (hn : n ∈ t.nodes) {s : Binary32}
    (hs : n.displayDuration = some s) :
    .displayDuration n.id s ∈ t.defects ↔ s.isFinite = false ∨ s.isBelowZero = true := by
  constructor
  · intro h
    simp only [Tree.defects, List.mem_append, List.mem_flatMap] at h
    -- only of a node is it said
    rcases h with (((h | h) | h) | h) | ⟨m, -, h⟩
    · split at h <;> simp at h
    · rcases Validation.kind_of_mem_nameDefects h with h | ⟨id, h⟩ <;> cases h
    · rcases Validation.kind_of_mem_startDefects h with h | ⟨start, h⟩ <;> cases h
    · split at h <;> simp at h
    · rcases Validation.kind_of_mem_nodeDefects h with
        ⟨id, place, h⟩ | ⟨choice, h⟩ | ⟨seconds, -, hunfit, h⟩
      · cases h
      · cases h
      · obtain rfl : s = seconds := (Defect.displayDuration.inj h).2
        exact hunfit
  · intro hunfit
    have hnode (known : List String) :
        .displayDuration n.id s ∈ Validation.nodeDefects known n := by
      simp [Validation.nodeDefects, hs, hunfit]
    exact List.mem_append_right _ (List.mem_flatMap.mpr ⟨n, hn, hnode _⟩)

/-- The display time of a node passes the checks exactly if it is a number from zero on. -/
theorem Tree.displayDuration_notMem_defects_iff {t : Tree} {n : Node} (hn : n ∈ t.nodes)
    {s : Binary32} (hs : n.displayDuration = some s) :
    .displayDuration n.id s ∉ t.defects ↔ ∃ q, s.toRat? = some q ∧ 0 ≤ q := by
  rw [displayDuration_mem_defects_iff hn hs]
  rcases hq : s.toRat? with - | q
  · have hfinite : s.isFinite = false := by rw [← Binary.isSome_toRat?, hq, Option.isSome_none]
    simp [hfinite]
  · simp [Binary.isFinite_of_toRat? hq, Binary.isBelowZero_iff hq]

/-! ### Nodes that are shown -/

/-- A closing that was set when a node was displayed has the time of that node left, as far as the
clock goes. -/
theorem Engine.OnTime.timeToEnd_eq {e e' : Engine} {notices : List Notice}
    (h : e.OnTime notices e') (he : e'.Coherent) (hdisplays : displaysNode notices = true)
    (hpending : e'.pendingAutoEnd = true) {node : Node} (hnode : e'.currentNode? = some node) :
    e'.timeToEnd = e.now + node.displayTime e.settings - e.now := by
  rcases he.timer with hstill | ⟨a, -, harmed⟩
  · rw [pendingAutoEnd_of_still hstill] at hpending
    cases hpending
  · obtain ⟨handle, t, -, hlive, -, htime⟩ := harmed.pending
    have hdue := h.setNow hdisplays node hnode (handle, t) (by simp [hlive])
    rw [htime, hdue, h.now hdisplays, h.settings]

namespace Session

/-- The checks and the engine agree on an authored display time exactly if it is not too long for a
duration. So when a node is shown and about to close itself, and its time has passed the checks, it
is held for this time, to the nearest nanosecond, or for the default one where its own is too long;
in both cases as far as the clock goes. -/
theorem held_as_authored (x : Session) :
    (∀ (t : Tree) (n : Node), n ∈ t.nodes → ∀ s, n.displayDuration = some s →
      ((.displayDuration n.id s ∉ t.defects ↔ (displayDuration? (some s)).isSome = true) ↔
        ¬Duration.Overlong s)) ∧
    ∀ op,
      let shown := x.engine.perform op
      displaysNode shown.notices = true → shown.value.2.pendingAutoEnd = true →
        ∃ a node, shown.value.2.active = some a ∧ a.tree.node? a.nodeId = some node ∧
          ∀ s, node.displayDuration = some s → .displayDuration node.id s ∉ a.tree.tree.defects →
            ∃ q wait, s.toRat? = some q ∧ 0 ≤ q ∧
              (if q < 2 ^ 64 then wait.Nearest q else wait = x.settings.defaultDisplay) ∧
              ∀ steps, steps ≠ [] →
                shown.value.2.ClosesAfter (x.engine.now + wait - x.engine.now) steps := by
  refine ⟨fun t n hn s hs ↦ ?_, ?_⟩
  · rw [Tree.displayDuration_notMem_defects_iff hn hs]
    exact Duration.isSome_ofSeconds?_of_zero_le_iff
  · intro op shown hdisplays hpending
    have he := Engine.coherent_perform x.coherent op
    have htimes := Engine.onTime_perform x.coherent op
    obtain ⟨a, ha⟩ := Option.isSome_iff_exists.mp (he.isActive_of_pending hpending)
    obtain ⟨node, hnode, -⟩ := he.active a ha
    have hcurrent : shown.value.2.currentNode? = some node := by
      rw [Engine.currentNode?, ha, Option.bind_some, hnode]
    have hleft := htimes.timeToEnd_eq he hdisplays hpending hcurrent
    rw [x.settings_engine] at hleft
    refine ⟨a, node, ha, hnode, fun s hs hpasses ↦ ?_⟩
    rw [Tree.displayDuration_notMem_defects_iff (IndexedTree.mem_of_node? hnode) hs] at hpasses
    obtain ⟨q, hq, hzero⟩ := hpasses
    refine ⟨q, node.displayTime x.settings, hq, hzero, Node.displayTime_spec hs hq hzero _, ?_⟩
    rw [← hleft]
    exact fun steps hsteps ↦ Engine.closesAfter_timeToEnd he hpending hsteps

/-- The door, which is to stay on screen for so many seconds. -/
def patientDoor (seconds : Binary32) : Node := { doorNode with displayDuration := some seconds }

/-- The tree of the door, which is to stay on screen for so many seconds. -/
def patientTree (seconds : Binary32) : IndexedTree where
  tree := { doorTree.tree with nodes := [patientDoor seconds] }
  index := doorTree.index.map fun n ↦ { n with displayDuration := some seconds }
  index_eq := by
    have hindex := indexNodes_map (f := fun n ↦ { n with displayDuration := some seconds })
      (fun _ ↦ rfl) doorTree.tree.id .empty doorTree.tree.nodes
    rw [doorTree.index_eq, KeyMap.map_empty] at hindex
    exact hindex

/-- A second and a half. -/
def moment : Binary32 := .ofDecimal false 15 (-1)

/-- Seconds that pass the checks and are more than a duration can express. -/
def ages : Binary32 := .ofDecimal false 1 20

/-- The door is held for a second and a half if this is authored. -/
theorem held_as_authored_moment :
    let shown := (Session.engine {}).perform (.start (patientTree moment))
    displaysNode shown.notices = true ∧ shown.value.2.pendingAutoEnd = true ∧
      .displayDuration "door" moment ∉ (patientTree moment).tree.defects ∧
      (displayDuration? (some moment)).isSome = true ∧
      ∃ wait : Duration, wait.Nearest (3 / 2) ∧
        shown.value.2.ClosesAfter (.zero + wait - .zero) [second, .zero, second] := by
  intro shown
  have hdisplays : displaysNode shown.notices = true := by decide +kernel
  have hpending : shown.value.2.pendingAutoEnd = true := by decide +kernel
  have hpasses : .displayDuration "door" moment ∉ (patientTree moment).tree.defects := by
    decide +kernel
  obtain ⟨hagree, hheld⟩ := held_as_authored {}
  obtain ⟨a, node, ha, hnode, htime⟩ := hheld _ hdisplays hpending
  have hactive : shown.value.2.active = some ⟨patientTree moment, "door"⟩ := by decide +kernel
  obtain rfl : a = ⟨patientTree moment, "door"⟩ := Option.some.inj (ha.symm.trans hactive)
  have hdoor : (patientTree moment).node? "door" = some (patientDoor moment) := by decide +kernel
  obtain rfl : node = patientDoor moment := Option.some.inj (hnode.symm.trans hdoor)
  obtain ⟨q, wait, hq, -, hwait, hcloses⟩ := htime moment rfl hpasses
  have hmoment : moment.toRat? = some (3 / 2) := by decide +kernel
  have hshort : ¬Duration.Overlong moment := by norm_num [Duration.Overlong, hmoment]
  have hused := (hagree (patientTree moment).tree (patientDoor moment) List.mem_cons_self moment
    rfl).mpr hshort
  obtain rfl : q = 3 / 2 := Option.some.inj (hq.symm.trans hmoment)
  rw [if_pos (by norm_num)] at hwait
  exact ⟨hdisplays, hpending, hpasses, hused.mp hpasses, wait, hwait, hcloses _ (by simp)⟩

/-- Ages pass the checks, but the engine cannot use them, and the door closes after three
seconds. -/
theorem not_held_as_authored_ages :
    ¬ (.displayDuration "door" ages ∉ (patientTree ages).tree.defects ↔
        (displayDuration? (some ages)).isSome = true) ∧
      (patientTree ages).tree.defects = [] ∧
      (Session.engine { ops := [.start (patientTree ages)] }).pendingAutoEnd = true ∧
      (Session.engine
        { ops := [.start (patientTree ages), .update second, .update second, .update second] }
        ).isActive = false := by
  decide +kernel

end Session

end Storyline
