import Storyline.Proofs.Store.Bounds
import Storyline.Proofs.Text.Folding
import Storyline.Store.Write

/-!
# What a store keeps

A store keeps its values under normal keys, and its integers within their bounds
(`Contents.Kept`). Raw contents that are put into an empty store settle to such as are kept
(`Contents.settle`, `Contents.kept_settle`); this is what seeding a new store and filling a store
anew have in common (`Store.seed_new`, `Store.refill_eq`). Each write keeps it
(`Store.From.perform`), and contents that are kept already settle to themselves
(`Contents.settle_of_kept`). The last is why a saved store comes back exactly as it was.

Whatever else changes a store changes it by writes. `Store.Writes` is the relation between a store,
those that writes lead to, and the changes that are announced on the way; an invariant of single
writes holds along it (`Store.Writes.keeps`).
-/

namespace Storyline

namespace KeyMap

variable {α : Type} {m : KeyMap α} {keep : String → α → α}

/-- The keys are in normal form, and the values are such as are kept. -/
def Kept (keep : String → α → α) (m : KeyMap α) : Prop :=
  ∀ k v, m.get? k = some v → normalizeKey? k = some k ∧ keep k v = v

theorem kept_empty : (empty : KeyMap α).Kept keep := fun k v h ↦ by simp at h

/-- A value that is kept as it is may be put under a normal key. -/
theorem Kept.insert (h : m.Kept keep) {key : String} {a : α} (hkey : normalizeKey? key = some key)
    (ha : keep key a = a) : (m.insert key a).Kept keep := by
  intro k v hv
  rw [get?_insert] at hv
  split at hv
  · subst k
    cases hv
    exact ⟨hkey, ha⟩
  · exact h k v hv

/-- Raw values in a map of their own: each goes under the normal form of its key, so the last
spelling of a key counts, and blank keys are left out. -/
def settle (raw : KeyMap α) (keep : String → α → α) : KeyMap α := empty.fill keep raw

/-- Settling an entry: it goes under the normal form of its key, if there is one. -/
def settleEntry (keep : String → α → α) (m : KeyMap α) (e : String × α) : KeyMap α :=
  match normalizeKey? e.1 with
  | some key => m.insert key (keep key e.2)
  | none => m

theorem settle_eq_foldl (raw : KeyMap α) (keep : String → α → α) :
    raw.settle keep = raw.entries.foldl (settleEntry keep) .empty := rfl

/-- Settling an entry keeps a map as it should be, as keeping a value twice is keeping it once. -/
theorem Kept.settleEntry (hkeep : ∀ k v, keep k (keep k v) = keep k v) (h : m.Kept keep)
    (e : String × α) : (m.settleEntry keep e).Kept keep := by
  rw [KeyMap.settleEntry]
  split
  · rename_i key hkey
    exact h.insert (normalizeKey?_of_eq_some hkey) (hkeep key e.2)
  · exact h

/-- Settled values are kept. -/
theorem kept_settle (hkeep : ∀ k v, keep k (keep k v) = keep k v) (raw : KeyMap α) :
    (raw.settle keep).Kept keep := by
  rw [settle_eq_foldl]
  suffices h : ∀ (es : List (String × α)) (m : KeyMap α), m.Kept keep →
      (es.foldl (settleEntry keep) m).Kept keep from h _ _ kept_empty
  intro es
  induction es with
  | nil => exact fun m h ↦ h
  | cons e es ih => exact fun m h ↦ ih _ (h.settleEntry hkeep e)

theorem get?_eq_some_of_mem {e : String × α} (h : e ∈ m.entries) : m.get? e.1 = some e.2 := by
  obtain ⟨es, hasc⟩ := m
  unfold get?
  dsimp only at h ⊢
  induction es with
  | nil => simp at h
  | cons d ds ih =>
    obtain ⟨hd, hds⟩ := List.pairwise_cons.mp hasc
    rw [lookup_cons_eq_ite]
    rcases List.mem_cons.mp h with rfl | h
    · exact if_pos rfl
    · have hne : e.1 ≠ d.1 := fun heq ↦ String.lt_irrefl _ (heq ▸ hd e h)
      rw [if_neg hne, ih hds h]

/-- Settling ascending entries that are kept already puts each of them where it was. -/
theorem get?_foldl_settleEntry {es : List (String × α)} (hasc : es.Pairwise (·.1 < ·.1))
    (hes : ∀ e ∈ es, normalizeKey? e.1 = some e.1 ∧ keep e.1 e.2 = e.2) (m : KeyMap α)
    (k : String) :
    (es.foldl (settleEntry keep) m).get? k = (es.lookup k).or (m.get? k) := by
  induction es generalizing m with
  | nil => simp
  | cons e es ih =>
    obtain ⟨he, hasc⟩ := List.pairwise_cons.mp hasc
    obtain ⟨hkey, hvalue⟩ := hes e List.mem_cons_self
    have hentry : settleEntry keep m e = m.insert e.1 e.2 := by
      simp only [settleEntry, hkey, hvalue]
    rw [List.foldl_cons, ih hasc fun d hd ↦ hes d (List.mem_cons_of_mem _ hd), hentry, get?_insert,
      lookup_cons_eq_ite]
    -- the entries behind `e` have greater keys, so none of them takes its place
    split
    · subst k
      rw [lookup_eq_none_of_lt he]
      rfl
    · rfl

/-- What is kept already is not changed by settling it again. -/
theorem settle_of_kept (h : m.Kept keep) : m.settle keep = m := by
  refine ext_get? fun k ↦ ?_
  rw [settle_eq_foldl, get?_foldl_settleEntry m.ascending
    (fun e he ↦ h e.1 e.2 (get?_eq_some_of_mem he)), get?_empty, Option.or_none]
  rfl

end KeyMap

namespace Contents

/-- Raw contents as a store with the given rules keeps them. -/
def settle (rules : List Bounds) (raw : Contents) : Contents where
  ints := raw.ints.settle (clampBy rules)
  bools := raw.bools.settle fun _ v ↦ v
  floats := raw.floats.settle fun _ v ↦ v
  strings := raw.strings.settle fun _ v ↦ v

/-- The values are such as a store with the given rules keeps. -/
structure Kept (rules : List Bounds) (c : Contents) : Prop where
  /-- The integers pass the rules unchanged. -/
  ints : c.ints.Kept (clampBy rules)
  /-- The switches have normal keys. -/
  bools : c.bools.Kept fun _ v ↦ v
  /-- So do the numbers. -/
  floats : c.floats.Kept fun _ v ↦ v
  /-- So do the texts. -/
  strings : c.strings.Kept fun _ v ↦ v

variable {rules : List Bounds}

/-- Raw contents are kept once they are settled. -/
theorem kept_settle (hrules : ∀ b ∈ rules, b.Ordered) (raw : Contents) :
    (raw.settle rules).Kept rules where
  ints := KeyMap.kept_settle (clampBy_clampBy hrules) raw.ints
  bools := KeyMap.kept_settle (fun _ _ ↦ rfl) raw.bools
  floats := KeyMap.kept_settle (fun _ _ ↦ rfl) raw.floats
  strings := KeyMap.kept_settle (fun _ _ ↦ rfl) raw.strings

/-- Kept contents settle to themselves. -/
theorem settle_of_kept {c : Contents} (h : c.Kept rules) : c.settle rules = c := by
  rw [settle, KeyMap.settle_of_kept h.ints, KeyMap.settle_of_kept h.bools,
    KeyMap.settle_of_kept h.floats, KeyMap.settle_of_kept h.strings]

end Contents

namespace Store

variable {s : Store}

/-! ### What single writes do -/

/-- A write goes to the normal form of its key, and nowhere if the key is blank. -/
theorem value_writeAt (kind key : String) (write : String → Told Change Store) :
    (s.writeAt kind key write).value =
      match normalizeKey? key with
      | some k => (write k).value
      | none => s := by
  rw [writeAt]
  rcases normalizeKey? key with - | k <;> rfl

/-- A store that is filled anew has nothing but what was put into it. -/
theorem refill_eq (raw : Contents) :
    s.refill raw = { s with contents := raw.settle s.rules } := rfl

/-- A store without values has nothing but its seeds once these are put in. -/
theorem seed_new (h : s.contents = {}) :
    s.seed = { s with contents := s.seeds.contents.settle s.rules } := by
  rw [seed, h]
  rfl

/-- Seeding a store and filling it with the seeds is the same where there are no values yet. -/
theorem seed_eq_refill (h : s.contents = {}) : s.seed = s.refill s.seeds.contents := by
  rw [seed_new h, refill_eq]

/-- Replacing all values settles the raw ones. -/
theorem value_replace (raw : Contents) :
    (s.replace raw).value = { s with contents := raw.settle s.rules } := by
  rw [← refill_eq]
  rfl

/-- A new store has the values of its seeds as its rules keep them. -/
theorem contents_ofSeeds (seeds : Seeds) :
    (ofSeeds seeds : Told Change Store).value.contents =
      seeds.contents.settle (rulesOf seeds.bounds : Told Change (List Bounds)).value := by
  rw [ofSeeds, Told.value_bind, seed_new rfl]
  rfl

/-- A store that started from the given seeds: it goes back to them, their rules are in force, and
it keeps its values accordingly. -/
structure From (seeds : Seeds) (s : Store) : Prop where
  seeds_eq : s.seeds = seeds
  rules_eq : s.rules = (rulesOf seeds.bounds : Told Change (List Bounds)).value
  kept : s.contents.Kept s.rules

variable {seeds : Seeds}

/-- The rules in force are in order. -/
theorem From.ordered (h : s.From seeds) : ∀ b ∈ s.rules, b.Ordered := by
  rw [h.rules_eq]
  exact ordered_of_mem_rulesOf

/-- A store starts from its seeds. -/
theorem from_ofSeeds (seeds : Seeds) : (ofSeeds seeds : Told Change Store).value.From seeds where
  seeds_eq := rfl
  rules_eq := rfl
  kept := by
    rw [contents_ofSeeds]
    exact Contents.kept_settle ordered_of_mem_rulesOf _

/-- Other contents that are kept as well. -/
theorem From.withContents (h : s.From seeds) {c : Contents} (hc : c.Kept s.rules) :
    ({ s with contents := c } : Store).From seeds :=
  ⟨h.seeds_eq, h.rules_eq, hc⟩

/-- A write under a key leads to a store from the same seeds if what it does under normal keys
does. -/
theorem From.writeAt (h : s.From seeds) (kind key : String) {write : String → Told Change Store}
    (hwrite : ∀ k, normalizeKey? k = some k → (write k).value.From seeds) :
    (s.writeAt kind key write).value.From seeds := by
  rw [value_writeAt]
  split
  · rename_i k hk
    exact hwrite k (normalizeKey?_of_eq_some hk)
  · exact h

theorem From.setInt (h : s.From seeds) (key : String) (v : Int32) :
    (s.setInt key v).value.From seeds :=
  h.writeAt "int" key fun k hk ↦ h.withContents
    { h.kept with ints := h.kept.ints.insert hk (clampBy_clampBy h.ordered k v) }

theorem From.setBool (h : s.From seeds) (key : String) (v : Bool) :
    (s.setBool key v).value.From seeds :=
  h.writeAt "bool" key fun _ hk ↦
    h.withContents { h.kept with bools := h.kept.bools.insert hk rfl }

theorem From.setFloat (h : s.From seeds) (key : String) (v : Binary64) :
    (s.setFloat key v).value.From seeds :=
  h.writeAt "float" key fun _ hk ↦
    h.withContents { h.kept with floats := h.kept.floats.insert hk rfl }

theorem From.setString (h : s.From seeds) (key v : String) : (s.setString key v).value.From seeds :=
  h.writeAt "string" key fun _ hk ↦
    h.withContents { h.kept with strings := h.kept.strings.insert hk rfl }

theorem From.replace (h : s.From seeds) (raw : Contents) : (s.replace raw).value.From seeds := by
  rw [value_replace]
  exact h.withContents (Contents.kept_settle h.ordered raw)

/-- Every write keeps what a store has kept so far. -/
theorem From.perform (h : s.From seeds) (w : Write) : (s.perform w).value.From seeds := by
  cases w with
  | setInt key v => exact h.setInt key v
  | addInt key delta => exact h.setInt key _
  | setBool key v => exact h.setBool key v
  | toggleBool key => exact h.setBool key _
  | setFloat key v => exact h.setFloat key v
  | setString key v => exact h.setString key v
  | reset => exact h.replace _
  | restore saved => exact h.replace saved

/-! ### Several writes -/

/-- Writes lead from one store to the other, and announce these changes in this order. -/
inductive Writes : Store → List Change → Store → Prop where
  | nil (s : Store) : Writes s [] s
  | cons (s : Store) (w : Write) {changes : List Change} {t : Store}
      (rest : Writes (s.perform w).value changes t) : Writes s ((s.perform w).notices ++ changes) t

/-- A write announces what it changes. -/
theorem writes_perform (s : Store) (w : Write) :
    s.Writes (s.perform w).notices (s.perform w).value := by
  have h := Writes.cons s w (.nil _)
  rwa [List.append_nil] at h

/-- Writes are done one after the other. -/
theorem Writes.trans {t u : Store} {cs ds : List Change} (h : s.Writes cs t) (h' : t.Writes ds u) :
    s.Writes (cs ++ ds) u := by
  induction h with
  | nil => exact h'
  | cons s w _ ih =>
    rw [List.append_assoc]
    exact .cons s w (ih h')

/-- An invariant of single writes holds along any number of them. -/
theorem Writes.keeps {P : Store → Prop} (hP : ∀ s w, P s → P (s.perform w).value) {t : Store}
    {changes : List Change} (h : s.Writes changes t) (hs : P s) : P t := by
  induction h with
  | nil => exact hs
  | cons s w _ ih => exact ih (hP s w hs)

/-- Writes lead to a store from the same seeds. -/
theorem From.writes {t : Store} {changes : List Change} (h : s.From seeds)
    (hst : s.Writes changes t) : t.From seeds :=
  hst.keeps (fun _ w h ↦ h.perform w) h

end Store

end Storyline
