import Storyline.Proofs.Store.Kept

/-!
# Clamping under any rules

Rules may be authored in any way: several for one key, such as exclude each other, such as have
their ends in the wrong order or a blank key. Clamping to ends in the wrong order makes no sense,
so it is a question whether it is ever tried. `Store.perform?` and `Store.ofSeeds?` are the
operations of a store in which each clamping insists on its ends being in order and otherwise has
no result; they always have one, and it is that of the ordinary operations
(`Store.From.perform?_eq_some`, `Store.ofSeeds?_eq_some`).

What a value is that has passed all rules for its key is said in terms of the rules as they are
authored, those of them that are well-formed (`Bounds.rulesFor`). It lies within the last of them,
and within all of them if there is a value that does (`Bounds.honours_foldl_clamp`): clamping to a
rule moves a value towards all those that the rule admits, so it never leaves a rule that it has
been clamped to before and that admits one of them.
-/

namespace Storyline

/-- Steps that all have a result make up a fold that has one. -/
theorem foldlM_eq_some {α β : Type} {f? : β → α → Option β} {f : β → α → β} {as : List α}
    (h : ∀ a ∈ as, ∀ b, f? b a = some (f b a)) (b : β) :
    as.foldlM f? b = some (as.foldl f b) := by
  induction as generalizing b with
  | nil => rfl
  | cons a as ih =>
    obtain ⟨ha, has⟩ := List.forall_mem_cons.mp h
    rw [List.foldlM_cons, ha, List.foldl_cons]
    exact ih has (f b a)

/-! ### Clamping strictly -/

/-- The nearest value within bounds, if their ends are in the right order. -/
def Bounds.clamp? (b : Bounds) (v : Int32) : Option Int32 :=
  if b.Ordered then some (b.clamp v) else none

/-- Applies the rules for a key to a value, one after the other, each of them strictly. -/
def clampBy? (rules : List Bounds) (key : String) (v : Int32) : Option Int32 :=
  (rules.filter (·.key = key)).foldlM (fun v b ↦ b.clamp? v) v

/-- Rules in order clamp every value. -/
theorem clampBy?_eq_some {rules : List Bounds} (h : ∀ b ∈ rules, b.Ordered) (key : String)
    (v : Int32) : clampBy? rules key v = some (clampBy rules key v) :=
  foldlM_eq_some (fun b hb _ ↦ if_pos (h b (List.mem_filter.mp hb).1)) v

/-- Values under normal keys; there are none if one of them cannot be kept. -/
def KeyMap.settle? {α : Type} (raw : KeyMap α) (keep? : String → α → Option α) :
    Option (KeyMap α) :=
  raw.entries.foldlM (fun m e ↦
    match normalizeKey? e.1 with
    | some key => (keep? key e.2).map (m.insert key)
    | none => some m) .empty

/-- Settling raw values does not fail where keeping one never does. -/
theorem KeyMap.settle?_eq_some {α : Type} {keep? : String → α → Option α}
    {keep : String → α → α} (h : ∀ key a, keep? key a = some (keep key a)) (raw : KeyMap α) :
    raw.settle? keep? = some (raw.settle keep) := by
  refine foldlM_eq_some (fun e _ m ↦ ?_) empty
  rcases normalizeKey? e.1 with - | key
  · rfl
  · simp only [h, Option.map_some]

/-- Raw contents as a store keeps them; only integers have bounds. -/
def Contents.settle? (rules : List Bounds) (raw : Contents) : Option Contents :=
  (raw.ints.settle? (clampBy? rules)).map fun ints ↦ { raw.settle rules with ints }

/-- Raw contents are settled without a failure if the rules are in order. -/
theorem Contents.settle?_eq_some {rules : List Bounds} (h : ∀ b ∈ rules, b.Ordered)
    (raw : Contents) : raw.settle? rules = some (raw.settle rules) := by
  rw [settle?, KeyMap.settle?_eq_some (clampBy?_eq_some h)]
  rfl

namespace Store

/-- The store that starts from seeds, if all clamping on the way is to ends in order. -/
def ofSeeds? (seeds : Seeds) : Option Store :=
  let rules := (rulesOf seeds.bounds : Told Change (List Bounds)).value
  (seeds.contents.settle? rules).map fun contents ↦ { contents, seeds, rules }

variable (s : Store)

/-- Keeps an integer within its bounds. -/
def setInt? (key : String) (v : Int32) : Option Store :=
  match normalizeKey? key with
  | some key => (clampBy? s.rules key v).map fun v ↦
    { s with contents := { s.contents with ints := s.contents.ints.insert key v } }
  | none => some s

/-- Replaces all values. -/
def replace? (raw : Contents) : Option Store :=
  (raw.settle? s.rules).map fun contents ↦ { s with contents }

/-- What a store is after a write, if all clamping on the way is to ends in order. -/
def perform? : Write → Option Store
  | .setInt key v => s.setInt? key v
  | .addInt key delta => s.setInt? key (saturatingAdd (s.getInt key) delta)
  | .reset => s.replace? s.seeds.contents
  | .restore saved => s.replace? saved
  | w => some (s.perform w).value

/-- A rule with its ends in the wrong order would leave no result. -/
example : ({ contents := {}, seeds := {}, rules := [⟨"x", 2, 1⟩] } : Store).perform?
    (.setInt " X" 0) = none := by
  decide +kernel

/-- Whatever the seeds, the store starts without a failure: rules out of order are dropped. -/
theorem ofSeeds?_eq_some (seeds : Seeds) :
    ofSeeds? seeds = some (ofSeeds seeds : Told Change Store).value := by
  rw [ofSeeds?, Contents.settle?_eq_some ordered_of_mem_rulesOf]
  rfl

variable {s} {seeds : Seeds}

/-- An integer is set without a failure if the rules are in order. -/
theorem setInt?_eq_some (h : ∀ b ∈ s.rules, b.Ordered) (key : String) (v : Int32) :
    s.setInt? key v = some (s.setInt key v).value := by
  rw [setInt?, setInt, value_writeAt]
  rcases normalizeKey? key with - | key
  · rfl
  · dsimp only
    rw [clampBy?_eq_some h]
    rfl

theorem replace?_eq_some (h : ∀ b ∈ s.rules, b.Ordered) (raw : Contents) :
    s.replace? raw = some (s.replace raw).value := by
  rw [replace?, Contents.settle?_eq_some h]
  rfl

/-- No write to a store clamps to ends in the wrong order. -/
theorem From.perform?_eq_some (h : s.From seeds) (w : Write) :
    s.perform? w = some (s.perform w).value := by
  cases w with
  | setInt key v => exact setInt?_eq_some h.ordered key v
  | addInt key delta => exact setInt?_eq_some h.ordered key _
  | reset => exact replace?_eq_some h.ordered s.seeds.contents
  | restore saved => exact replace?_eq_some h.ordered saved
  | setBool | toggleBool | setFloat | setString => rfl

/-- Nor does any run of them. -/
theorem Writes.exists_perform? {t : Store} {changes : List Change} (hst : s.Writes changes t)
    (h : s.From seeds) : ∃ ws : List Write, ws.foldlM perform? s = some t := by
  induction hst with
  | nil => exact ⟨[], rfl⟩
  | cons s w _ ih =>
    obtain ⟨ws, hws⟩ := ih (h.perform w)
    refine ⟨w :: ws, ?_⟩
    rw [List.foldlM_cons, h.perform?_eq_some]
    exact hws

end Store

/-! ### The rules for a key -/

namespace Bounds

/-- A value lies within bounds. -/
def Admits (b : Bounds) (v : Int32) : Prop := b.min ≤ v ∧ v ≤ b.max

instance (b : Bounds) (v : Int32) : Decidable (b.Admits v) := inferInstanceAs (Decidable (_ ∧ _))

/-- The well-formed ones among authored rules for a key, in their order: their keys are spellings of
it, and their ends are in the right order. -/
def rulesFor (bounds : List Bounds) (key : String) : List Bounds :=
  bounds.filter fun b ↦ normalizeKey? b.key = some key ∧ b.min ≤ b.max

/-- A rule counts for a key if it names the key and is in order. -/
theorem rulesFor_cons (b : Bounds) (bounds : List Bounds) (key : String) :
    rulesFor (b :: bounds) key =
      if normalizeKey? b.key = some key ∧ b.min ≤ b.max then b :: rulesFor bounds key
      else rulesFor bounds key := by
  rw [rulesFor, List.filter_cons]
  simp only [decide_eq_true_eq]
  rfl

/-- The rules that count are in order. -/
theorem ordered_of_mem_rulesFor {bounds : List Bounds} {key : String} {b : Bounds}
    (h : b ∈ rulesFor bounds key) : b.Ordered := by
  have hb := (List.mem_filter.mp h).2
  simp only [decide_eq_true_eq] at hb
  exact hb.2

/-- A value does what rules ask for: it lies within the last of them, and within each of them if
some value does. -/
structure Honours (rules : List Bounds) (v : Int32) : Prop where
  last : ∀ b, rules.getLast? = some b → b.Admits v
  all : (∃ u, ∀ b ∈ rules, b.Admits u) → ∀ b ∈ rules, b.Admits v

theorem Ordered.admits_clamp {b : Bounds} (h : b.Ordered) (v : Int32) : b.Admits (b.clamp v) :=
  clamp_mem h v

theorem Admits.ordered {b : Bounds} {v : Int32} (h : b.Admits v) : b.Ordered :=
  Int32.le_trans h.1 h.2

/-- Clamping to bounds does not lead out of others that have a value in common with them. -/
theorem Admits.clamp {b c : Bounds} {u v : Int32} (hv : b.Admits v) (hb : b.Admits u)
    (hc : c.Admits u) : b.Admits (c.clamp v) := by
  simp only [Admits, Int32.le_iff_toInt_le, toInt_clamp hc.ordered] at hv hb hc ⊢
  omega

/-- What a rule admits it admits after further clamping, if some value suits all the rules. -/
theorem Admits.foldl_clamp {b : Bounds} {rules : List Bounds} {u v : Int32} (hv : b.Admits v)
    (hb : b.Admits u) (hrules : ∀ c ∈ rules, c.Admits u) :
    b.Admits (rules.foldl (fun v c ↦ c.clamp v) v) := by
  induction rules generalizing v with
  | nil => exact hv
  | cons c rules ih =>
    obtain ⟨hc, hrules⟩ := List.forall_mem_cons.mp hrules
    exact ih (hv.clamp hb hc) hrules

/-- If some value suits all the rules, all of them admit what they clamp one after the other. -/
theorem admits_foldl_clamp {rules : List Bounds} {u : Int32} (hrules : ∀ c ∈ rules, c.Admits u)
    (v : Int32) : ∀ b ∈ rules, b.Admits (rules.foldl (fun v c ↦ c.clamp v) v) := by
  induction rules generalizing v with
  | nil => simp
  | cons c rules ih =>
    obtain ⟨hc, hrest⟩ := List.forall_mem_cons.mp hrules
    refine List.forall_mem_cons.mpr ⟨?_, ih hrest (c.clamp v)⟩
    exact (hc.ordered.admits_clamp v).foldl_clamp hc hrest

/-- Whatever it was before, a value that has passed rules does what they ask for. -/
theorem honours_foldl_clamp {rules : List Bounds} (h : ∀ b ∈ rules, b.Ordered) (v : Int32) :
    Honours rules (rules.foldl (fun v b ↦ b.clamp v) v) where
  last b hb := by
    obtain ⟨before, rfl⟩ := List.getLast?_eq_some_iff.mp hb
    rw [List.foldl_append]
    exact (h b (by simp)).admits_clamp _
  all := fun ⟨_, hu⟩ ↦ admits_foldl_clamp hu v

/-- Rules under normal keys clamp as they do as they are authored. -/
theorem foldl_clamp_filterMap (bounds : List Bounds) (key : String) (v : Int32) :
    ((bounds.filterMap normalize?).filter (·.key = key)).foldl (fun v b ↦ b.clamp v) v =
      (rulesFor bounds key).foldl (fun v b ↦ b.clamp v) v := by
  induction bounds generalizing v with
  | nil => rfl
  | cons b bounds ih =>
    rw [rulesFor_cons, List.filterMap_cons, normalize?]
    rcases normalizeKey? b.key with - | k
    · simpa using ih v
    · by_cases hordered : b.min ≤ b.max
      · by_cases hkey : k = key
        · simp only [hordered, hkey, if_true, and_self, List.filter_cons, decide_true,
            List.foldl_cons]
          exact ih (b.clamp v)
        · simpa [hordered, hkey] using ih v
      · simpa [hordered] using ih v

end Bounds

namespace Store

/-- The rules in force are the well-formed ones, under normal keys. -/
theorem value_rulesOf {α : Type} (bounds : List Bounds) :
    (rulesOf bounds : Told α (List Bounds)).value =
      (Bounds.sanity :: bounds).filterMap Bounds.normalize? := by
  have hsanity : Bounds.sanity.normalize? = some Bounds.sanity := by decide +kernel
  rw [List.filterMap_cons_some hsanity]
  -- the induction is over the rules that are left, with any in force so far
  show _ = [Bounds.sanity] ++ bounds.filterMap Bounds.normalize?
  rw [rulesOf]
  generalize [Bounds.sanity] = rules
  induction bounds generalizing rules with
  | nil => exact (List.append_nil rules).symm
  | cons b bounds ih =>
    rw [List.foldlM_cons, Told.value_bind, List.filterMap_cons]
    rcases b.normalize? with - | rule
    · exact ih rules
    · refine (ih (rules ++ [rule])).trans ?_
      rw [List.append_assoc, List.singleton_append]

variable {s : Store} {seeds : Seeds} {key : String} {v : Int32}

/-- In a store, an integer is clamped by the well-formed rules for its key. -/
theorem From.clampBy_eq (h : s.From seeds) (key : String) (v : Int32) :
    clampBy s.rules key v =
      (Bounds.rulesFor (Bounds.sanity :: seeds.bounds) key).foldl (fun v b ↦ b.clamp v) v := by
  rw [h.rules_eq, value_rulesOf, clampBy, Bounds.foldl_clamp_filterMap]

/-- An integer in a store does what the rules for its key ask for, with or without the built-in
one. -/
theorem From.honours (h : s.From seeds) (hv : s.contents.ints.get? key = some v) :
    Bounds.Honours (Bounds.rulesFor (Bounds.sanity :: seeds.bounds) key) v ∧
      Bounds.Honours (Bounds.rulesFor seeds.bounds key) v := by
  have hpassed : (Bounds.rulesFor (Bounds.sanity :: seeds.bounds) key).foldl
      (fun v b ↦ b.clamp v) v = v := by
    rw [← h.clampBy_eq]
    exact (h.kept.ints key v hv).2
  -- the built-in rule comes first, so the others have the last word on what it makes of a value
  obtain ⟨w, hw⟩ : ∃ w, (Bounds.rulesFor seeds.bounds key).foldl (fun v b ↦ b.clamp v) w = v := by
    rw [Bounds.rulesFor_cons] at hpassed
    split at hpassed
    · exact ⟨_, hpassed⟩
    · exact ⟨v, hpassed⟩
  constructor
  · rw [← hpassed]
    exact Bounds.honours_foldl_clamp (fun _ hb ↦ Bounds.ordered_of_mem_rulesFor hb) v
  · rw [← hw]
    exact Bounds.honours_foldl_clamp (fun _ hb ↦ Bounds.ordered_of_mem_rulesFor hb) w

end Store

end Storyline
