import Storyline.Files.Folder

/-!
# Files that were written

A file that was written at a path is read at that path. Writing walks down the names of the path
and puts back together what it has walked through; reading walks down the same names, so the two
meet as long as each name leads to an entry and none of them stays or goes out again
(`Folder.follow_of_write`).
-/

namespace Storyline.Folder

/-! ### Names on a path -/

/-- A name without a slash is a path of one name. -/
theorem namesOn_of_notMem {name : String} (h : '/' ∉ name.toList) : namesOn name = [name] := by
  have hparts : name.toList.splitOn '/' = [name.toList] :=
    List.splitOnP_eq_singleton fun c hc ↦ beq_false_of_ne (ne_of_mem_of_not_mem hc h)
  rw [namesOn, hparts, List.map_singleton, String.ofList_toList]

/-- A name and a slash stand for one step on a path. -/
theorem namesOn_append {name : String} (h : '/' ∉ name.toList) (path : String) :
    namesOn (name ++ "/" ++ path) = name :: namesOn path := by
  have hparts : (name.toList ++ '/' :: path.toList).splitOn '/' =
      name.toList :: path.toList.splitOn '/' :=
    List.splitOnP_append_cons_of_forall_mem
      (fun c hc ↦ beq_false_of_ne (ne_of_mem_of_not_mem hc h)) '/' (by decide) path.toList
  have htext : (name ++ "/" ++ path).toList = name.toList ++ '/' :: path.toList := by simp
  rw [namesOn, htext, hparts, List.map_cons, String.ofList_toList, namesOn]

/-- Whether a name is one of an entry: it neither stays where it is nor goes out. -/
def isEntryName (name : String) : Bool := name != "" && name != "." && name != ".."

/-! ### Entries -/

theorem lookup_map_replace (name : String) (entry : Folder) (entries : List (String × Folder)) :
    (entries.map fun e ↦ if e.1 = name then (name, entry) else e).lookup name =
      (entries.lookup name).map fun _ ↦ entry := by
  induction entries with
  | nil => rfl
  | cons e entries ih =>
    obtain ⟨key, old⟩ := e
    rw [List.map_cons, List.lookup_cons]
    by_cases hkey : key = name
    · simp [hkey]
    · have hother : (name == key) = false := beq_false_of_ne (Ne.symm hkey)
      simp [hkey, hother, List.lookup_cons, ih]

/-- What was put under a name is found there. -/
theorem lookup_setEntry (name : String) (entry : Folder) (entries : List (String × Folder)) :
    (setEntry name entry entries).lookup name = some entry := by
  rw [setEntry]
  split
  · rename_i hthere
    obtain ⟨old, hold⟩ := Option.isSome_iff_exists.mp hthere
    rw [lookup_map_replace, hold]
    rfl
  · rename_i hmissing
    rw [List.lookup_append, Option.not_isSome_iff_eq_none.mp hmissing]
    simp

theorem child_setEntry {name : String} (h : name.utf8ByteSize ≤ nameLimit) (entry : Folder)
    (entries : List (String × Folder)) :
    (directory (setEntry name entry entries)).child name = .ok entry := by
  simp only [child, if_neg (Nat.not_lt.mpr h), lookup_setEntry]

/-- What is not refused for the length of its name has a name that is not too long. -/
theorem utf8ByteSize_le_of_child {name : String} {entries : List (String × Folder)}
    {answer : Except FileError Folder} (h : (directory entries).child name = answer)
    (hanswer : answer ≠ .error .nameTooLong) : name.utf8ByteSize ≤ nameLimit := by
  refine Nat.not_lt.mp fun hlong ↦ hanswer ?_
  rw [← h, child, if_pos hlong]

/-! ### Reading what was written -/

/-- One step of writing: into a directory, under a name that is not too long, a file or what has
become of the entry of that name. -/
theorem exists_of_write_cons {text name : String} {rest : List String} {f g : Folder}
    (h : write text f (name :: rest) = .ok g) :
    name.utf8ByteSize ≤ nameLimit ∧ ∃ entries entry,
      g = directory (setEntry name entry entries) ∧
        (rest = [] ∧ entry = file text ∨ ∃ old, write text old rest = .ok entry) := by
  rcases f with old | entries
  · cases h
  · rw [write] at h
    split at h
    · rename_i hchild
      have hname := utf8ByteSize_le_of_child hchild (by simp)
      split at h
      · rename_i hrest
        cases h
        exact ⟨hname, entries, file text, rfl, .inl ⟨List.isEmpty_iff.mp hrest, rfl⟩⟩
      · cases h
    · cases h
    · rename_i old hchild
      have hname := utf8ByteSize_le_of_child hchild (by simp)
      rcases hwritten : write text old rest with err | entry
      · rw [hwritten] at h
        cases h
      · rw [hwritten] at h
        cases h
        exact ⟨hname, entries, entry, rfl, .inr ⟨old, hwritten⟩⟩

/-- The names on the path of a file that was written are not too long. -/
theorem utf8ByteSize_le_of_write {text : String} {names : List String} {f g : Folder}
    (h : write text f names = .ok g) : ∀ name ∈ names, name.utf8ByteSize ≤ nameLimit := by
  induction names generalizing f g with
  | nil => exact fun name hmem ↦ absurd hmem List.not_mem_nil
  | cons name rest ih =>
    obtain ⟨hname, entries, entry, -, ⟨rfl, -⟩ | ⟨old, hwritten⟩⟩ := exists_of_write_cons h
    · simpa using hname
    · exact List.forall_mem_cons.mpr ⟨hname, ih hwritten⟩

/-- The names on the path of a file that was written lead to it. -/
theorem follow_of_write {text : String} {names : List String} {f g : Folder}
    (hnames : ∀ name ∈ names, isEntryName name = true) (h : write text f names = .ok g)
    (outer : List Folder) : follow outer g names = .ok (file text) := by
  induction names generalizing f g outer with
  | nil =>
    rw [write] at h
    split at h
    · cases h
    · cases h
      rfl
  | cons name rest ih =>
    obtain ⟨hname, hrest⟩ := List.forall_mem_cons.mp hnames
    obtain ⟨hlength, entries, entry, rfl, hentry⟩ := exists_of_write_cons h
    have hstep : follow outer (directory (setEntry name entry entries)) (name :: rest) =
        follow (directory (setEntry name entry entries) :: outer) entry rest := by
      simp only [isEntryName, Bool.and_eq_true, bne_iff_ne] at hname
      simp [follow, hname, child_setEntry hlength]
    rw [hstep]
    rcases hentry with ⟨rfl, rfl⟩ | ⟨old, hwritten⟩
    · rfl
    · exact ih hrest hwritten _

/-- A file that was written at a path within the folder is read there. -/
theorem read_of_write {text path : String} {f g : Folder} (hempty : path.isEmpty = false)
    (hlength : path.utf8ByteSize ≤ pathLimit) (hslash : path.startsWith "/" = false)
    (hnames : ∀ name ∈ namesOn path, isEntryName name = true)
    (h : write text f (namesOn path) = .ok g) : g.read path = .ok text := by
  have hfind : g.find path = .ok (file text) := by
    rw [find, hempty, hslash]
    simpa [Nat.not_lt.mpr hlength] using follow_of_write hnames h []
  rw [read, hfind]

end Storyline.Folder
