import Storyline.Proofs.Store.Replacement

/-!
# An observer of a store

An observer has four maps of its own and puts every change that it hears of in them
(`Contents.hear`). It never removes an entry, so it does not end up with the contents of the
store, but it can end up with everything that is read there, for an absent variable reads as the
default of its kind. That takes two things of the changes that are announced on the way from some
contents to others (`Contents.Reports`): each tells what is there afterwards, and what none of
them tells of reads as before.

Every write to a store has both (`Store.From.reports`). For a value under a key this is plain; a
replacement announces every key that was or is now present, and a kept key is announced as it is
kept because it is in normal form. Along several writes an observer stays in step
(`Store.Writes.inStep`), and each announcement was true of a store on the way
(`Store.Writes.exists_told`).
-/

namespace Storyline

/-- The kinds of variables. -/
inductive Kind where
  | int
  | bool
  | float
  | text
  deriving DecidableEq

/-- The kind of the variable that changed. -/
def Change.kind : Change → Kind
  | .int _ _ => .int
  | .bool _ _ => .bool
  | .float _ _ => .float
  | .text _ _ => .text

/-- The variable that changed. -/
def Change.key : Change → String
  | .int key _ => key
  | .bool key _ => key
  | .float key _ => key
  | .text key _ => key

/-- What a map of values under normal keys reads at a key in any spelling. -/
def KeyMap.readAt {α : Type} (m : KeyMap α) (absent : α) (key : String) : α :=
  ((normalizeKey? key).bind m.get?).getD absent

namespace Contents

variable {c d : Contents}

/-! ### Reading and hearing -/

/-- What is read of a kind under a normal key, as the change that would announce it. An absent
variable reads as the default of its kind. -/
def reading (c : Contents) (kind : Kind) (key : String) : Change :=
  match kind with
  | .int => .int key ((c.ints.get? key).getD 0)
  | .bool => .bool key ((c.bools.get? key).getD false)
  | .float => .float key ((c.floats.get? key).getD .zero)
  | .text => .text key ((c.strings.get? key).getD "")

/-- The maps of an observer once it has heard of a change. -/
def hear (c : Contents) : Change → Contents
  | .int key value => { c with ints := c.ints.insert key value }
  | .bool key value => { c with bools := c.bools.insert key value }
  | .float key value => { c with floats := c.floats.insert key value }
  | .text key value => { c with strings := c.strings.insert key value }

/-- The maps of an observer once it has heard of changes, one after the other. -/
def hearAll (c : Contents) (changes : List Change) : Contents := changes.foldl hear c

/-- What is heard of is read from then on, and nothing else reads differently. -/
theorem reading_hear (c : Contents) (change : Change) (kind : Kind) (key : String) :
    (c.hear change).reading kind key =
      if change.kind = kind ∧ change.key = key then change else c.reading kind key := by
  cases change <;> cases kind <;> simp only [hear, reading, Change.kind, Change.key, true_and,
    reduceCtorEq, false_and, if_false, KeyMap.get?_insert]
  all_goals
    split
    · rename_i heq
      rw [if_pos heq.symm, heq]
      rfl
    · rename_i hne
      rw [if_neg (Ne.symm hne)]

/-- Both read the same under every key. -/
def InStep (c d : Contents) : Prop := ∀ kind key, c.reading kind key = d.reading kind key

/-- Where an observer is in step, it reads the same under a key in any spelling. -/
theorem InStep.readAt (h : c.InStep d) (key : String) :
    c.ints.readAt 0 key = d.ints.readAt 0 key ∧
      c.bools.readAt false key = d.bools.readAt false key ∧
      c.floats.readAt .zero key = d.floats.readAt .zero key ∧
      c.strings.readAt "" key = d.strings.readAt "" key := by
  simp only [KeyMap.readAt]
  rcases normalizeKey? key with - | k
  · exact ⟨rfl, rfl, rfl, rfl⟩
  · exact ⟨(Change.int.inj (h .int k)).2, (Change.bool.inj (h .bool k)).2,
      (Change.float.inj (h .float k)).2, (Change.text.inj (h .text k)).2⟩

/-- The changes tell of a step from some contents to others. -/
structure Reports (changes : List Change) (c d : Contents) : Prop where
  /-- Each of them tells what is there afterwards. -/
  told : ∀ change ∈ changes, change = d.reading change.kind change.key
  /-- What none of them tells of reads as before. -/
  untold : ∀ kind key, (∀ change ∈ changes, ¬(change.kind = kind ∧ change.key = key)) →
    d.reading kind key = c.reading kind key

theorem reports_nil (c : Contents) : Reports [] c c where
  told change h := by cases h
  untold _ _ _ := rfl

/-- A change tells of the step that an observer takes when it hears of it. -/
theorem reports_hear (c : Contents) (change : Change) : Reports [change] c (c.hear change) where
  told ch hch := by
    rw [List.mem_singleton.mp hch, reading_hear, if_pos ⟨rfl, rfl⟩]
  untold kind key hnone := by
    rw [reading_hear, if_neg (hnone change (List.mem_singleton_self change))]

/-- Where true changes are heard of, what one of them tells of reads right afterwards, and so does
what read right before. -/
theorem reading_hearAll {changes : List Change}
    (htold : ∀ change ∈ changes, change = d.reading change.kind change.key) {kind : Kind}
    {key : String}
    (h : (∃ change ∈ changes, change.kind = kind ∧ change.key = key) ∨
      c.reading kind key = d.reading kind key) :
    (c.hearAll changes).reading kind key = d.reading kind key := by
  induction changes generalizing c with
  | nil =>
    rcases h with ⟨change, hmem, -⟩ | h
    · cases hmem
    · exact h
  | cons first rest ih =>
    obtain ⟨hfirst, hrest⟩ := List.forall_mem_cons.mp htold
    refine ih hrest ?_
    rw [reading_hear]
    by_cases heq : first.kind = kind ∧ first.key = key
    · -- from here on it can only be told of again, and then truly
      obtain ⟨rfl, rfl⟩ := heq
      exact .inr ((if_pos ⟨rfl, rfl⟩).trans hfirst)
    · rw [if_neg heq]
      refine h.imp_left ?_
      rintro ⟨change, hmem, hchange⟩
      rcases List.mem_cons.mp hmem with rfl | hmem
      · exact absurd hchange heq
      · exact ⟨change, hmem, hchange⟩

/-- An observer that is in step stays in step with what the changes tell of. -/
theorem InStep.hearAll {observer : Contents} (h : observer.InStep c) {changes : List Change}
    (hreports : Reports changes c d) : (observer.hearAll changes).InStep d := by
  intro kind key
  refine reading_hearAll hreports.told ?_
  by_cases hany : ∃ change ∈ changes, change.kind = kind ∧ change.key = key
  · exact .inl hany
  · have hnone : d.reading kind key = c.reading kind key := by
      refine hreports.untold kind key fun change hmem hchange ↦ hany ?_
      exact ⟨change, hmem, hchange⟩
    exact .inr ((h kind key).trans hnone.symm)

end Contents

namespace Store

open Contents (Reports)

variable {s : Store} {seeds : Seeds}

/-! ### What single writes announce -/

/-- A write that announces one change, and then has it in its maps. -/
theorem reports_writeAt (kind key : String) {write : String → Told Change Store}
    (change : String → Change) (hnotices : ∀ k, (write k).notices = [change k])
    (hvalue : ∀ k, (write k).value.contents = s.contents.hear (change k)) :
    Reports (s.writeAt kind key write).notices s.contents
      (s.writeAt kind key write).value.contents := by
  rw [writeAt]
  rcases normalizeKey? key with - | k
  · exact Contents.reports_nil _
  · dsimp only
    rw [hnotices, hvalue]
    exact Contents.reports_hear _ _

/-- Setting an integer tells of what it does. -/
theorem reports_setInt (s : Store) (key : String) (v : Int32) :
    Reports (s.setInt key v).notices s.contents (s.setInt key v).value.contents :=
  reports_writeAt "int" key (fun k ↦ .int k (clampBy s.rules k v)) (fun _ ↦ rfl) fun _ ↦ rfl

theorem reports_setBool (s : Store) (key : String) (v : Bool) :
    Reports (s.setBool key v).notices s.contents (s.setBool key v).value.contents :=
  reports_writeAt "bool" key (fun k ↦ .bool k v) (fun _ ↦ rfl) fun _ ↦ rfl

theorem reports_setFloat (s : Store) (key : String) (v : Binary64) :
    Reports (s.setFloat key v).notices s.contents (s.setFloat key v).value.contents :=
  reports_writeAt "float" key (fun k ↦ .float k v) (fun _ ↦ rfl) fun _ ↦ rfl

theorem reports_setString (s : Store) (key v : String) :
    Reports (s.setString key v).notices s.contents (s.setString key v).value.contents :=
  reports_writeAt "string" key (fun k ↦ .text k v) (fun _ ↦ rfl) fun _ ↦ rfl

/-! ### What a replacement announces -/

/-- Whether a replacement touches a variable of a kind. -/
def Touches (old raw : Contents) (key : String) : Kind → Prop
  | .int => key ∈ touchedKeys old.ints raw.ints
  | .bool => key ∈ touchedKeys old.bools raw.bools
  | .float => key ∈ touchedKeys old.floats raw.floats
  | .text => key ∈ touchedKeys old.strings raw.strings

/-- A touched variable was present or is present now. -/
theorem touches_iff {old raw : Contents} (rules : List Bounds) {key : String} {kind : Kind} :
    Touches old raw key kind ↔
      match kind with
      | .int => key ∈ old.ints.keys ∨ key ∈ (raw.settle rules).ints.keys
      | .bool => key ∈ old.bools.keys ∨ key ∈ (raw.settle rules).bools.keys
      | .float => key ∈ old.floats.keys ∨ key ∈ (raw.settle rules).floats.keys
      | .text => key ∈ old.strings.keys ∨ key ∈ (raw.settle rules).strings.keys := by
  cases kind with
  | int => exact mem_touchedKeys (clampBy rules)
  | bool => exact mem_touchedKeys fun _ v ↦ v
  | float => exact mem_touchedKeys fun _ v ↦ v
  | text => exact mem_touchedKeys fun _ v ↦ v

theorem normalizeKey?_of_mem_keys {α : Type} {m : KeyMap α} {keep : String → α → α}
    (h : m.Kept keep) {key : String} (hkey : key ∈ m.keys) : normalizeKey? key = some key := by
  obtain ⟨v, hv⟩ := Option.ne_none_iff_exists'.mp (KeyMap.mem_keys_iff.mp hkey)
  exact (h key v hv).1

/-- In contents that are kept, a replacement touches normal keys only. -/
theorem normalizeKey?_of_touches {old raw : Contents} {rules : List Bounds}
    (hrules : ∀ b ∈ rules, b.Ordered) (hold : old.Kept rules) {key : String} {kind : Kind}
    (h : Touches old raw key kind) : normalizeKey? key = some key := by
  have hnew := Contents.kept_settle hrules raw
  rw [touches_iff rules] at h
  cases kind with
  | int => exact h.elim (normalizeKey?_of_mem_keys hold.ints) (normalizeKey?_of_mem_keys hnew.ints)
  | bool =>
    exact h.elim (normalizeKey?_of_mem_keys hold.bools) (normalizeKey?_of_mem_keys hnew.bools)
  | float =>
    exact h.elim (normalizeKey?_of_mem_keys hold.floats) (normalizeKey?_of_mem_keys hnew.floats)
  | text =>
    exact h.elim (normalizeKey?_of_mem_keys hold.strings) (normalizeKey?_of_mem_keys hnew.strings)

/-- What is read of a kind under a key in any spelling, as the change that would announce it. -/
def saying (s : Store) (kind : Kind) (key : String) : Change :=
  match kind with
  | .int => .int key (s.getInt key)
  | .bool => .bool key (s.getBool key)
  | .float => .float key (s.getFloat key)
  | .text => .text key (s.getString key)

/-- Under a normal key, what is said is what is read. -/
theorem saying_of_normal (s : Store) (kind : Kind) {key : String}
    (h : normalizeKey? key = some key) : s.saying kind key = s.contents.reading kind key := by
  cases kind <;> simp only [saying, getInt, getBool, getFloat, getString, h, Option.bind_some,
    Contents.reading]

/-- A replacement announces a variable exactly if it touches it, with what is read there
afterwards. -/
theorem mem_replacementChanges {old raw : Contents} {after : Store} {change : Change} :
    change ∈ replacementChanges old raw after ↔
      Touches old raw change.key change.kind ∧ change = after.saying change.kind change.key := by
  -- of the four parts of the list only the one of its kind can have the change
  cases change <;>
    simp only [replacementChanges, Touches, saying, Change.key, Change.kind, List.mem_append,
      List.mem_map, reduceCtorEq, and_false, exists_false, or_false, false_or]
  all_goals
    constructor
    · rintro ⟨k, hk, heq⟩
      cases heq
      exact ⟨hk, rfl⟩
    · rintro ⟨hk, heq⟩
      exact ⟨_, hk, heq.symm⟩

/-- What a replacement does not touch reads as before. -/
theorem reading_eq_of_not_touches {old raw : Contents} {rules : List Bounds} {key : String}
    {kind : Kind} (h : ¬Touches old raw key kind) :
    (raw.settle rules).reading kind key = old.reading kind key := by
  rw [touches_iff rules] at h
  cases kind <;>
    simp only [KeyMap.mem_keys_iff, ne_eq, not_or, Classical.not_not] at h <;>
    simp only [Contents.reading, h.1, h.2]

/-- A replacement tells truly of every variable that it touches, and others are read as before. -/
theorem From.reports_replace (h : s.From seeds) (raw : Contents) :
    Reports (s.replace raw).notices s.contents (s.replace raw).value.contents := by
  rw [notices_replace, value_replace]
  constructor
  · intro change hmem
    obtain ⟨htouches, hsaying⟩ := mem_replacementChanges.mp hmem
    have hnormal := normalizeKey?_of_touches h.ordered h.kept htouches
    rw [saying_of_normal _ _ hnormal] at hsaying
    exact hsaying
  · intro kind key hnone
    refine reading_eq_of_not_touches fun htouches ↦ ?_
    -- a touched variable would have been announced
    let change := saying { s with contents := raw.settle s.rules } kind key
    have hkind : change.kind = kind := by cases kind <;> rfl
    have hkey : change.key = key := by cases kind <;> rfl
    refine hnone change (mem_replacementChanges.mpr ?_) ⟨hkind, hkey⟩
    rw [hkind, hkey]
    exact ⟨htouches, rfl⟩

/-! ### Runs of writes -/

/-- What a write announces tells of what it does. -/
theorem From.reports (h : s.From seeds) (w : Write) :
    Reports (s.perform w).notices s.contents (s.perform w).value.contents := by
  cases w with
  | setInt key v => exact s.reports_setInt key v
  | addInt key delta => exact s.reports_setInt key _
  | setBool key v => exact s.reports_setBool key v
  | toggleBool key => exact s.reports_setBool key _
  | setFloat key v => exact s.reports_setFloat key v
  | setString key v => exact s.reports_setString key v
  | reset =>
    simp only [Store.perform, reset, Told.notices_bind, Told.value_bind, Told.notices_log,
      List.nil_append]
    exact h.reports_replace s.seeds.contents
  | restore saved =>
    simp only [Store.perform, restore, Told.notices_bind, Told.value_bind, Told.notices_log,
      List.nil_append]
    exact h.reports_replace saved

/-- An observer that is in step with a store stays in step through any writes. -/
theorem Writes.inStep {t : Store} {changes : List Change} (hst : s.Writes changes t)
    (h : s.From seeds) {observer : Contents} (hobserver : observer.InStep s.contents) :
    (observer.hearAll changes).InStep t.contents := by
  induction hst generalizing observer with
  | nil => exact hobserver
  | cons s w _ ih =>
    rw [Contents.hearAll, List.foldl_append]
    exact ih (h.perform w) (hobserver.hearAll (h.reports w))

/-- Whatever writes announce is what was read in a store on the way. -/
theorem Writes.exists_told {t : Store} {changes : List Change} (hst : s.Writes changes t)
    (h : s.From seeds) {change : Change} (hmem : change ∈ changes) :
    ∃ u : Store, u.From seeds ∧ change = u.contents.reading change.kind change.key := by
  induction hst with
  | nil => cases hmem
  | cons s w _ ih =>
    rcases List.mem_append.mp hmem with hmem | hmem
    · exact ⟨(s.perform w).value, h.perform w, (h.reports w).told change hmem⟩
    · exact ih (h.perform w) hmem

end Store

end Storyline
