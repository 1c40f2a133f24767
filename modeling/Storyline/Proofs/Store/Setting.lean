import Storyline.Proofs.Store.Clamping
import Storyline.Proofs.Store.Seeding

/-!
# Setting one variable

The four kinds of variables have their values in four maps, and getters and setters of their own.
By its kind, what holds of all of them is said once: a setter has one map changed, at the normal
form of the key, and announces what it put there (`Store.set_spec`). So it can be read under every
spelling of the key, and under no other, and the other maps are as they were
(`Store.get_keeping`, `Store.part_keeping`).

Those who listen to a store hear what it announces, each of them once and in the order in which they
came (`Listened.deliveries_call`).
-/

namespace Storyline

/-! ### Kinds of values -/

namespace Kind

/-- The values of a kind. -/
def Value : Kind → Type
  | int => Int32
  | bool => Bool
  | float => Binary64
  | text => String

/-- What an absent variable of a kind reads as. -/
def absent : (kind : Kind) → kind.Value
  | int => (0 : Int32)
  | bool => false
  | float => (.zero : Binary64)
  | text => ""

/-- The change that announces a value. -/
def change : (kind : Kind) → String → kind.Value → Change
  | int => .int
  | bool => .bool
  | float => .float
  | text => .text

/-- The write that sets a value. -/
def set : (kind : Kind) → String → kind.Value → Write
  | int => .setInt
  | bool => .setBool
  | float => .setFloat
  | text => .setString

end Kind

/-- The values of a kind. -/
def Contents.part (c : Contents) : (kind : Kind) → KeyMap kind.Value
  | .int => c.ints
  | .bool => c.bools
  | .float => c.floats
  | .text => c.strings

/-- A change that is heard of is put into the map of its kind. -/
theorem Contents.part_hear (c : Contents) (kind : Kind) (key : String) (v : kind.Value) :
    (c.hear (kind.change key v)).part kind = (c.part kind).insert key v := by
  cases kind <;> rfl

/-- The maps of the other kinds stay. -/
theorem Contents.part_hear_of_ne {kind other : Kind} (h : other ≠ kind) (c : Contents)
    (key : String) (v : kind.Value) : (c.hear (kind.change key v)).part other = c.part other := by
  cases kind <;> cases other <;> first | rfl | exact absurd rfl h

/-- Under the spellings of a normal key the value that was put there is read. -/
theorem KeyMap.readAt_insert {α : Type} (m : KeyMap α) (absent : α) (key k : String) (a : α) :
    (m.insert key a).readAt absent k =
      if normalizeKey? k = some key then a else m.readAt absent k := by
  rw [readAt, readAt]
  rcases normalizeKey? k with - | k
  · rfl
  · simp only [Option.bind_some, get?_insert, Option.some_inj]
    split <;> rfl

namespace Store

variable {s : Store} {key : String}

/-- What is read of a kind. -/
def get (s : Store) : (kind : Kind) → String → kind.Value
  | .int => s.getInt
  | .bool => s.getBool
  | .float => s.getFloat
  | .text => s.getString

/-- Reading a variable reads the map of its kind. -/
theorem get_eq_readAt (s : Store) (kind : Kind) (key : String) :
    s.get kind key = (s.contents.part kind).readAt kind.absent key := by
  cases kind <;> rfl

/-- What a value is kept as under a normal key: only integers have bounds. -/
def keptAs (s : Store) : (kind : Kind) → String → kind.Value → kind.Value
  | .int, key, v => clampBy s.rules key v
  | .bool, _, v => v
  | .float, _, v => v
  | .text, _, v => v

/-! ### Changes of a store -/

/-- A store once a change of it has been made. -/
def keeping (s : Store) (c : Change) : Store := { s with contents := s.contents.hear c }

/-- The change that adds to an integer. -/
def addition (s : Store) (key : String) (delta : Int32) : Change :=
  let key := foldName key
  .int key (clampBy s.rules key (saturatingAdd (s.getInt key) delta))

/-- After a change of a kind, its value is read under each spelling of its key. -/
theorem get_keeping (s : Store) (kind : Kind) (key k : String) (v : kind.Value) :
    (s.keeping (kind.change key v)).get kind k =
      if normalizeKey? k = some key then v else s.get kind k := by
  rw [get_eq_readAt, keeping, Contents.part_hear, KeyMap.readAt_insert, ← get_eq_readAt]

/-- It leaves the other kinds alone. -/
theorem part_keeping {kind other : Kind} (h : other ≠ kind) (s : Store) (key : String)
    (v : kind.Value) :
    (s.keeping (kind.change key v)).contents.part other = s.contents.part other :=
  Contents.part_hear_of_ne h s.contents key v

/-- A key that is not blank has its folded form as normal form. -/
theorem normalizeKey?_of_not_blank (h : Text.isBlankText key = false) :
    normalizeKey? key = some (foldName key) := normalizeKey?_eq_some_iff.mpr ⟨h, rfl⟩

/-- A write under a key that is not blank goes to the folded key. -/
theorem writeAt_of_not_blank (h : Text.isBlankText key = false) (kind : String)
    (write : String → Told Change Store) : s.writeAt kind key write = write (foldName key) := by
  rw [writeAt, normalizeKey?_of_not_blank h]

/-- An integer is read alike under a key and under its folded form. -/
theorem getInt_foldName (h : Text.isBlankText key = false) :
    s.getInt (foldName key) = s.getInt key := by
  have hnormal := normalizeKey?_of_not_blank h
  rw [getInt, getInt, normalizeKey?_of_eq_some hnormal, hnormal]

/-- Under a key that is not blank, a write makes the change that it announces. -/
theorem writeAt_spec (h : Text.isBlankText key = false) (kind : String)
    {write : String → Told Change Store} (change : String → Change)
    (hnotices : ∀ k, (write k).notices = [change k])
    (hvalue : ∀ k, (write k).value = s.keeping (change k)) :
    (s.writeAt kind key write).notices = [change (foldName key)] ∧
      (s.writeAt kind key write).value = s.keeping (change (foldName key)) := by
  rw [writeAt_of_not_blank h]
  exact ⟨hnotices _, hvalue _⟩

/-- A setter makes one change, and announces it. -/
theorem set_spec (s : Store) (kind : Kind) (h : Text.isBlankText key = false) (v : kind.Value) :
    let c := kind.change (foldName key) (s.keptAs kind (foldName key) v)
    (s.perform (kind.set key v)).notices = [c] ∧
      (s.perform (kind.set key v)).value = s.keeping c := by
  cases kind with
  | int =>
    exact writeAt_spec h "int" (fun k ↦ .int k (clampBy s.rules k v)) (fun _ ↦ rfl) fun _ ↦ rfl
  | bool => exact writeAt_spec h "bool" (fun k ↦ .bool k v) (fun _ ↦ rfl) fun _ ↦ rfl
  | float => exact writeAt_spec h "float" (fun k ↦ .float k v) (fun _ ↦ rfl) fun _ ↦ rfl
  | text => exact writeAt_spec h "string" (fun k ↦ .text k v) (fun _ ↦ rfl) fun _ ↦ rfl

/-- Adding to an integer announces the sum, and keeps it. -/
theorem addInt_spec (s : Store) (key : String) (h : Text.isBlankText key = false)
    (delta : Int32) :
    (s.addInt key delta).notices = [s.addition key delta] ∧
      (s.addInt key delta).value = s.keeping (s.addition key delta) := by
  rw [addition, getInt_foldName h]
  exact s.set_spec .int h _

/-- Setting a switch announces it, and keeps it. -/
theorem setBool_spec (s : Store) (key : String) (h : Text.isBlankText key = false) (v : Bool) :
    (s.setBool key v).notices = [.bool (foldName key) v] ∧
      (s.setBool key v).value = s.keeping (.bool (foldName key) v) :=
  s.set_spec .bool h v

/-- Setting a text announces it, and keeps it. -/
theorem setString_spec (s : Store) (key : String) (h : Text.isBlankText key = false)
    (v : String) :
    (s.setString key v).notices = [.text (foldName key) v] ∧
      (s.setString key v).value = s.keeping (.text (foldName key) v) :=
  s.set_spec .text h v

end Store

/-- What a value is kept as in a store that started from these seeds: an integer is clamped by the
well-formed rules for its key, the built-in one before those of the seeds. -/
def Seeds.keepAs (seeds : Seeds) : (kind : Kind) → String → kind.Value → kind.Value
  | .int, key, v =>
    (Bounds.rulesFor (Bounds.sanity :: seeds.bounds) (foldName key)).foldl (fun v b ↦ b.clamp v) v
  | .bool, _, v => v
  | .float, _, v => v
  | .text, _, v => v

/-- What a store keeps of a value is told by the seeds it started from. -/
theorem Store.From.keptAs_eq {s : Store} {seeds : Seeds} (h : s.From seeds) (kind : Kind)
    (key : String) (v : kind.Value) :
    s.keptAs kind (foldName key) v = seeds.keepAs kind key v := by
  cases kind with
  | int => exact h.clampBy_eq (foldName key) v
  | _ => rfl

/-- A sum is cut to the 32-bit range. -/
theorem toInt_saturatingAdd (a b : Int32) :
    (saturatingAdd a b).toInt =
      max Int32.minValue.toInt (min (a.toInt + b.toInt) Int32.maxValue.toInt) := by
  have hrange : Int32.minValue.toInt ≤ Int32.maxValue.toInt := by decide
  rw [saturatingAdd, Int32.ofIntClamp]
  split
  · split
    · rw [Int32.toInt_ofIntLE]
      omega
    · omega
  · omega

/-! ### Writes under a key -/

/-- The key under which a single value is written. -/
def Write.key? : Write → Option String
  | setInt key _ | addInt key _ | setBool key _ | toggleBool key | setFloat key _
  | setString key _ => some key
  | reset | restore _ => none

/-- Under a blank key nothing is written or announced. -/
theorem Store.perform_of_blank {s : Store} {w : Write} {key : String} (hkey : w.key? = some key)
    (h : Text.isBlankText key = true) : (s.perform w).notices = [] ∧ (s.perform w).value = s := by
  have hblank (kind : String) (write : String → Told Change Store) :
      (s.writeAt kind key write).notices = [] ∧ (s.writeAt kind key write).value = s := by
    rw [writeAt, normalizeKey?, if_pos h]
    exact ⟨rfl, rfl⟩
  cases w with
  | reset | restore => cases hkey
  | setInt | addInt | setBool | toggleBool | setFloat | setString =>
    cases hkey
    exact hblank _ _

/-! ### Listeners -/

/-- Who heard which change. -/
def Heard.delivery? {τ : Type} : Heard τ → Option (τ × Change)
  | .change listener c => some (listener, c)
  | .record _ | .event _ _ => none

/-- Each listener of the store hears once of each change that is announced, and then of the next. -/
theorem Audience.deliveries_hear {τ β : Type} (a : Audience τ) (x : Told Change β) :
    (a.hear (x.mapNotices Notice.change).signals).filterMap Heard.delivery? =
      x.notices.flatMap a.store.deliveries := by
  rw [Audience.hear, Told.mapNotices, Told.notices, List.filterMap_flatMap, List.flatMap_map]
  induction x.signals with
  | nil => rfl
  | cons signal signals ih =>
    rw [List.flatMap_cons, ih]
    cases signal with
    | log r => rfl
    | notice c =>
      have hone : (((a.store.deliveries c).map fun d ↦ Heard.change d.1 d.2).filterMap
          Heard.delivery?) = a.store.deliveries c := by
        rw [List.filterMap_map]
        exact List.filterMap_some
      exact congrArg (· ++ _) hone

namespace Listened

variable {τ : Type}

/-- The changes that were heard of on a call, with who heard of them, in order. -/
def Answer.deliveries : Answer τ → List (τ × Change)
  | .told heard => heard.filterMap Heard.delivery?
  | _ => []

/-- Of each change that a write announces, each listener hears once. -/
theorem deliveries_call (l : Listened τ) (w : Write) :
    (l.call (.write w)).1.deliveries =
      (l.store.perform w).notices.flatMap l.listeners.deliveries :=
  Audience.deliveries_hear { store := l.listeners } (l.store.perform w)

/-- A call had just one variable of one kind set. -/
structure Sets (l : Listened τ) (kind : Kind) (key : String) (v : kind.Value)
    (result : Answer τ × Listened τ) : Prop where
  /-- The value is read under every spelling of the key, and what is read under other keys is what
  was read before. -/
  get : ∀ k, result.2.store.get kind k =
    if normalizeKey? k = normalizeKey? key then v else l.store.get kind k
  /-- The variables of the other kinds are as they were. -/
  part : ∀ other, other ≠ kind →
    result.2.store.contents.part other = l.store.contents.part other
  /-- Each listener heard of it once, and of nothing else. -/
  heard : result.1.deliveries = l.listeners.deliveries (kind.change (foldName key) v)
  /-- All besides the values is as it was. -/
  rest : result.2 = ⟨{ l.store with contents := result.2.store.contents }, l.listeners⟩

/-- A setter that is called through listeners sets its variable. -/
theorem sets_call (l : Listened τ) (kind : Kind) {key : String}
    (h : Text.isBlankText key = false) (v : kind.Value) :
    l.Sets kind key (l.store.keptAs kind (foldName key) v) (l.call (.write (kind.set key v))) := by
  obtain ⟨hnotices, hvalue⟩ := l.store.set_spec kind h v
  have hstore : (l.call (.write (kind.set key v))).2.store = _ := hvalue
  constructor
  · intro k
    rw [hstore, Store.get_keeping, Store.normalizeKey?_of_not_blank h]
  · intro other hother
    rw [hstore, Store.part_keeping hother]
  · rw [deliveries_call, hnotices, List.flatMap_singleton]
  · have hresult : (l.call (.write (kind.set key v))).2 =
        ⟨(l.store.perform (kind.set key v)).value, l.listeners⟩ := rfl
    rw [hresult, hvalue]
    rfl

end Listened

end Storyline
