import Storyline.Play.BuiltIn
import Storyline.Proofs.Ron.Values
import Storyline.Proofs.Saved.Slots

/-!
# Snapshots that are read back

What the program writes of a snapshot it reads as the same snapshot, so a game that was saved can be
loaded (`readsBack_builtIn`). The parts of a snapshot are texts, switches, integers and numbers, put
together by options, lists, maps and records, so reading back follows the form of a snapshot from
the inside out. Only for numbers it is assumed, one by one: the text of each has to
stand for the number (`Binary.ReadsBack`). Since what is no number has many bits but two texts,
numbers are compared up to that (`Snapshot.Same`).
-/

namespace Storyline

open Play

/-! ### Sameness -/

/-- Two numbers are the same if their bits are, or if neither is a number. -/
def Binary.Same {f : Format} (x y : Binary f) : Prop := x = y ∨ x.isNaN = true ∧ y.isNaN = true

/-- The text that is written for a number stands for another, which is the same. -/
def Binary.ReadsAs (x y : Binary64) : Prop :=
  Binary.read? (Ron.Writer.float x 0).toList = some y ∧ y.Same x

/-- The text that is written for a number stands for the number. -/
def Binary.ReadsBack (x : Binary64) : Prop := ∃ y, x.ReadsAs y

instance {f : Format} (x y : Binary f) : Decidable (x.Same y) := inferInstanceAs (Decidable (_ ∨ _))

instance (x : Binary64) : Decidable x.ReadsBack :=
  inferInstanceAs (Decidable (∃ y ∈ Binary.read? (Ron.Writer.float x 0).toList, y.Same x))

/-- Two maps have the same keys, with related values. -/
def KeyMap.Related {α β : Type} (R : α → β → Prop) (m : KeyMap α) (n : KeyMap β) : Prop :=
  List.Forall₂ (fun e e' ↦ e.1 = e'.1 ∧ R e.2 e'.2) m.entries n.entries

/-- The values of two stores are the same. -/
structure Contents.Same (c d : Contents) : Prop where
  /-- The integers are equal. -/
  ints : c.ints = d.ints
  /-- The switches are equal. -/
  bools : c.bools = d.bools
  /-- The numbers are the same. -/
  floats : c.floats.Related Binary.Same d.floats
  /-- The texts are equal. -/
  strings : c.strings = d.strings

/-- Two snapshots are the same. -/
structure Snapshot.Same (s t : Snapshot) : Prop where
  /-- They were taken by the same version. -/
  version : s.version = t.version
  /-- They were taken in the same tree. -/
  treeId : s.treeId = t.treeId
  /-- They were taken at the same node. -/
  nodeId : s.nodeId = t.nodeId
  /-- They hold the same values. -/
  store : s.store.Same t.store
  /-- They hold the same items. -/
  inventory : s.inventory = t.inventory

namespace KeyMap

variable {α β : Type} {R : α → β → Prop}

/-- With a value for each value of a map, there is a map of those values. -/
theorem exists_related (m : KeyMap α) (h : ∀ e ∈ m.entries, ∃ b, R e.2 b) :
    ∃ n : KeyMap β, m.Related R n := by
  have hentries : ∃ es : List (String × β),
      List.Forall₂ (fun e e' ↦ e.1 = e'.1 ∧ R e.2 e'.2) m.entries es := by
    generalize m.entries = entries at h
    induction entries with
    | nil => exact ⟨[], .nil⟩
    | cons e entries ih =>
      obtain ⟨⟨b, hb⟩, hrest⟩ := List.forall_mem_cons.mp h
      obtain ⟨es, hes⟩ := ih hrest
      exact ⟨(e.1, b) :: es, .cons ⟨rfl, hb⟩ hes⟩
  obtain ⟨es, hes⟩ := hentries
  -- the keys are those of the map, so they ascend
  have hkeys : List.Forall₂ (· = ·) (m.entries.map (·.1)) (es.map (·.1)) := by
    rw [List.forall₂_map_left_iff, List.forall₂_map_right_iff]
    exact hes.imp fun _ _ h ↦ h.1
  rw [List.forall₂_eq_eq_eq] at hkeys
  refine ⟨⟨es, ?_⟩, hes⟩
  have hascending := List.pairwise_map.mpr m.ascending
  rw [hkeys] at hascending
  exact List.pairwise_map.mp hascending

end KeyMap

/-! ### Parts of snapshots -/

/-- A map is read back if its values are. -/
theorem Ron.reads_map_self {α : Type} {r : Ron.Reader α} {w : Ron.Writer α} {levels : Nat}
    (h : ∀ a depth, Ron.Reads r levels (w a depth).toList a) (m : KeyMap α) (depth : Nat) :
    Ron.Reads (Ron.map r) (levels + 2) (Ron.Writer.map w m depth).toList m := by
  refine Ron.reads_map ?_
  rw [List.forall₂_same]
  exact fun e _ ↦ ⟨rfl, h e.2 (depth + 1)⟩

/-- An optional text is read back. -/
theorem reads_optionalText (s : Option String) (depth : Nat) :
    Ron.Reads (Ron.option Ron.string) 1
      (Ron.Writer.option Ron.Writer.string s depth).toList s := by
  rcases s with - | s
  · exact Ron.reads_none _ depth
  · exact (Ron.reads_string s depth).optional

/-- The values of a store are read back, with the numbers that their texts stand for. -/
theorem Contents.exists_reads (c : Contents) (h : ∀ e ∈ c.floats.entries, e.2.ReadsBack) :
    ∃ d : Contents, d.Same c ∧
      ∀ depth, Ron.Reads Contents.reader 4 (Contents.writer c depth).toList d := by
  obtain ⟨floats, hfloats⟩ := c.floats.exists_related h
  refine ⟨{ c with floats }, ⟨rfl, rfl, ?_, rfl⟩, fun depth ↦ ?_⟩
  · exact List.Forall₂.flip (hfloats.imp fun _ _ h ↦ ⟨h.1.symm, h.2.2⟩)
  have hints := Ron.reads_map_self Ron.reads_int32 c.ints (depth + 1)
  have hbools := Ron.reads_map_self Ron.reads_bool c.bools (depth + 1)
  have hnumbers : Ron.Reads (Ron.map Ron.float64) 2
      (Ron.Writer.map Ron.Writer.float c.floats (depth + 1)).toList floats :=
    Ron.reads_map (hfloats.imp fun _ _ h ↦ ⟨h.1, Ron.reads_float64 h.2.1 _⟩)
  have hstrings := Ron.reads_map_self Ron.reads_string c.strings (depth + 1)
  refine Ron.reads_record (by decide +kernel) (.cons (hints.field rfl) <|
    .cons (hbools.field rfl) <|
    .cons (hnumbers.field rfl) <|
    .cons (hstrings.field rfl) .nil) rfl rfl

/-- The player's items are read back. -/
theorem Inventory.reads (i : Inventory) (depth : Nat) :
    Ron.Reads Inventory.reader 4 (Inventory.writer i depth).toList i := by
  have hitems : Ron.Reads (Ron.list Ron.string) 2
      (Ron.Writer.list Ron.Writer.string i.items (depth + 1)).toList i.items := by
    refine Ron.reads_list ?_
    rw [List.forall₂_same]
    exact fun item _ ↦ Ron.reads_string item _
  exact Ron.reads_record (by decide +kernel) (.cons (hitems.field rfl) .nil) rfl rfl

/-! ### Snapshots -/

/-- The text of a snapshot is read as the same snapshot. -/
theorem Snapshot.exists_ofText?_toText (s : Snapshot)
    (h : ∀ e ∈ s.store.floats.entries, e.2.ReadsBack) :
    ∃ t : Snapshot, t.Same s ∧ ofText? s.toText = some t := by
  obtain ⟨store, hsame, hstore⟩ := s.store.exists_reads h
  refine ⟨{ s with store }, ⟨rfl, rfl, rfl, hsame, rfl⟩, ?_⟩
  have hversion := (Ron.reads_string s.version 1).mono (Nat.zero_le 4)
  have htree := (reads_optionalText s.treeId 1).mono (by decide : 1 ≤ 4)
  have hnode := (reads_optionalText s.nodeId 1).mono (by decide : 1 ≤ 4)
  have hreads : Ron.Reads Snapshot.reader 6 (Snapshot.writer s 0).toList { s with store } :=
    Ron.reads_record (by decide +kernel) (.cons (hversion.field rfl) <|
      .cons (htree.field rfl) <|
      .cons (hnode.field rfl) <|
      .cons ((hstore 1).field rfl) <|
      .cons ((s.inventory.reads 1).field rfl) .nil) rfl rfl
  refine Ron.document_of_reads hreads (by decide) ?_
  simp [toText, writer, Ron.Writer.record, Ron.Writer.block]

/-- The program reads back what it writes of a snapshot. -/
theorem readsBack_builtIn (s : Snapshot) (h : ∀ e ∈ s.store.floats.entries, e.2.ReadsBack) :
    ∃ t : Snapshot, t.Same s ∧ Libraries.builtIn.ReadsBack s t := by
  obtain ⟨t, hsame, htext⟩ := s.exists_ofText?_toText h
  exact ⟨t, hsame, s.toText, rfl, Libraries.readSnapshot_builtIn htext⟩

/-- A tenth is read back. -/
example : Binary.ReadsBack ⟨0x3FB999999999999A⟩ := by decide +kernel

end Storyline
