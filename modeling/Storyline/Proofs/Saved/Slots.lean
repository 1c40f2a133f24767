import Storyline.Play.Rehearsal
import Storyline.Play.Turn
import Storyline.Proofs.Files.Folder
import Storyline.Proofs.Text.Casing

/-!
# Save slots

However a slot is called, its file stands in the directory of saved games: the name of the file has
no slash in it and is not one of those that stay or go out. So what a game writes to a slot is what
it reads from the slot afterwards (`read_of_saveSnapshot`), and it goes back to the saved game if
the libraries read back what they write (`follow_loadGame_of_saved`).
-/

namespace Storyline

open Folder Play

theorem toLower_ne_slash {c : Char} (h : c.isAlphanum = true ∨ c = '-') : c.toLower ≠ '/' := by
  rw [ne_eq, Text.toLower_eq_iff (by decide)]
  rintro rfl
  exact absurd h (by decide)

/-- The file of a slot is named without a slash, whatever the slot is called. -/
theorem slash_notMem_slotFile (slot : String) : '/' ∉ (slotFile slot).toList := by
  have hname : '/' ∉ (Text.trimChars slot.toList).map fun c ↦
      if c.isAlphanum || c == '-' then c.toLower else '_' := by
    intro hmem
    obtain ⟨c, -, hc⟩ := List.mem_map.mp hmem
    split at hc
    · rename_i hkept
      exact toLower_ne_slash (by simpa using hkept) hc
    · cases hc
  have hends : '/' ∉ "tale-".toList ∧ '/' ∉ ".ron".toList := by decide +kernel
  simp only [slotFile, String.toList_append, String.toList_ofList, List.mem_append, not_or]
  exact ⟨⟨hends.1, hname⟩, hends.2⟩

/-- The path of a slot leads to its file in the directory of saved games. -/
theorem namesOn_slotPath (slot : String) :
    namesOn (slotPath slot) = [saveDirectory, slotFile slot] := by
  rw [slotPath, namesOn_append (by decide +kernel), namesOn_of_notMem (slash_notMem_slotFile slot)]

/-- A name that does not begin with a dot can name an entry of a folder. -/
theorem isEntryName_of_head {name : String} {c : Char} (h : name.toList.head? = some c)
    (hc : c ≠ '.') : isEntryName name = true := by
  have hne {other : String} (hother : other.toList.head? ≠ some c) : name ≠ other := by
    rintro rfl
    exact hother h
  have hempty : name ≠ "" := hne (by simp)
  have hpoint : name ≠ "." := hne (by simpa using Ne.symm hc)
  have hpoints : name ≠ ".." := hne (by simpa using Ne.symm hc)
  simp [isEntryName, hempty, hpoint, hpoints]

/-- A file that was written in a slot is read from it. -/
theorem read_of_write_slotPath {text slot : String} {f g : Folder}
    (h : write text f (namesOn (slotPath slot)) = .ok g) : g.read (slotPath slot) = .ok text := by
  have hnames : ∀ name ∈ namesOn (slotPath slot), isEntryName name = true := by
    rw [namesOn_slotPath]
    have hfile : isEntryName (slotFile slot) = true :=
      isEntryName_of_head (c := 't') (by simp [slotFile]) (by decide)
    have hdirectory : isEntryName saveDirectory = true := by decide +kernel
    simp [hfile, hdirectory]
  have hlength : (slotPath slot).utf8ByteSize ≤ pathLimit := by
    have hfile : (slotFile slot).utf8ByteSize ≤ nameLimit :=
      utf8ByteSize_le_of_write h _ (by simp [namesOn_slotPath])
    have hdirectory : (saveDirectory ++ "/").utf8ByteSize = 12 := by decide +kernel
    rw [slotPath, String.utf8ByteSize_append, hdirectory]
    exact Nat.le_trans (Nat.add_le_add_left hfile 12) (by decide)
  have hhead : (slotPath slot).toList.head? = some 's' := by
    simp [slotPath, saveDirectory]
  have hempty : (slotPath slot).isEmpty = false := by
    rw [Bool.eq_false_iff, ne_eq, String.isEmpty_iff]
    intro hpath
    rw [hpath] at hhead
    cases hhead
  have hslash : (slotPath slot).startsWith "/" = false := by
    rw [String.startsWith_string_eq_false_iff]
    rintro ⟨rest, hrest⟩
    rw [← hrest] at hhead
    cases hhead
  exact read_of_write hempty hlength hslash hnames h

variable {lib : Libraries} {slot : String} {s t : Snapshot} {r r' : Rehearsal}

/-- What was saved in a slot is what is read from it. -/
theorem read_of_saveSnapshot (h : r.follow (saveSnapshot lib (slotPath slot) s) = (.ok (), r')) :
    ∃ text, lib.writeSnapshot s = .ok text ∧ r'.folder.read (slotPath slot) = .ok text := by
  rcases htext : lib.writeSnapshot s with message | text
  · simp [saveSnapshot, htext] at h
  rcases hmade : r.folder.makeDirectory (namesOn saveDirectory) with err | made
  · simp [saveSnapshot, htext, Rehearsal.follow, Rehearsal.change, hmade] at h
  rcases hwritten : made.write text (namesOn (slotPath slot)) with err | written
  · simp [saveSnapshot, htext, Rehearsal.follow, Rehearsal.change, hmade, hwritten] at h
  have hsaved : r.follow (saveSnapshot lib (slotPath slot) s) =
      (.ok (), { r with folder := written }) := by
    simp [saveSnapshot, htext, Rehearsal.follow, Rehearsal.change, hmade, hwritten]
  rw [hsaved] at h
  cases h
  exact ⟨text, rfl, read_of_write_slotPath hwritten⟩

/-- The libraries read what they write of a snapshot, and this is what they make of it. -/
def Play.Libraries.ReadsBack (lib : Libraries) (s t : Snapshot) : Prop :=
  ∃ text, lib.writeSnapshot s = .ok text ∧ lib.readSnapshot text = .ok t

/-- A slot in which a snapshot was saved is loaded as what the libraries read back of it. -/
theorem follow_loadGame_of_saved (hlib : lib.ReadsBack s t)
    (h : r.follow (saveSnapshot lib (slotPath slot) s) = (.ok (), r')) (tree : IndexedTree)
    (e : Engine) : r'.follow (loadGame lib tree e slot) =
      r'.follow (applySnapshot lib tree e (slotPath slot) t) := by
  obtain ⟨text, htext, hread⟩ := hlib
  obtain ⟨text', htext', hfile⟩ := read_of_saveSnapshot h
  obtain rfl : text = text' := Except.ok.inj (htext.symm.trans htext')
  have hload : (Snapshot.load lib.readSnapshot (slotPath slot) (.ok text) :
      Told Notice (Except Causes Snapshot)).value = .ok t := by
    rw [Snapshot.load, hread]
    dsimp only
    split <;> rfl
  rw [loadGame, Rehearsal.follow, hfile]
  dsimp only
  rw [hload]

end Storyline
