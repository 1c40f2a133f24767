import Storyline.Proofs.Text.Folding
import Storyline.Proofs.Tree.Mended
import Storyline.Tree.Lint
import Storyline.Tree.Validation

/-!
# Trees that pass the checks

Two checks look at a tree before it is played: `Tree.defects` at its names, references and
impacts, and `Tree.lint` at its commands and conditions. A tree that passes both is indexed
(`Tree.exists_indexed`), and everything that an engine comes across in it can be used
(`IndexedTree.Sound`, `IndexedTree.sound_of_checks`).

What has to be seen for this is that the checks and the index agree on names. The checks collect
the folded names of the nodes in a list, the index has them as its keys, and a name that is in the
one is in the other (`knows_iff_mem_knownNames`).
-/

namespace Storyline

/-! ### Sound content -/

/-- The choice can be used: its condition can be read, it leads to a node that is known or to
none, and so do its impacts. -/
structure Choice.Sound (known : String → Bool) (c : Choice) : Prop where
  /-- Its condition can be read. -/
  condition : isReadable c.condition = true
  /-- The node that it leads to is known. -/
  nextNode : ∀ name, c.nextNode = some name → known name = true
  /-- Its impacts can be made. -/
  impacts : ∀ i ∈ c.impacts, i.isUsable = true

/-- Everything that is authored at the node can be used. -/
structure Node.Sound (known : String → Bool) (n : Node) : Prop where
  /-- The commands on entering it can be read. -/
  startCommands : ∀ raw ∈ n.startCommands, isCommand raw = true
  /-- So can those on leaving it. -/
  endCommands : ∀ raw ∈ n.endCommands, isCommand raw = true
  /-- The node that follows is known. -/
  autoNext : ∀ name, n.autoNext = some name → known name = true
  /-- The choices can be used. -/
  choices : ∀ c ∈ n.choices, c.Sound known

/-- The tree starts at one of its nodes, and all of them can be used. -/
structure IndexedTree.Sound (t : IndexedTree) : Prop where
  /-- There is a node to start at. -/
  start : ∃ name, t.tree.startNode = some name ∧ t.knows name = true
  /-- Every node that can be found is sound. -/
  nodes : ∀ name n, t.node? name = some n → n.Sound t.knows

/-! ### Names -/

/-- A name folds to the empty text exactly if it is blank. -/
theorem isEmpty_foldName (name : String) : (foldName name).isEmpty = Text.isBlankText name := by
  have hempty : (foldName name).isEmpty = true ↔ (foldName name).toList = [] := by
    rw [String.isEmpty_iff, ← String.toList_inj, String.toList_empty]
  rw [Bool.eq_iff_iff, hempty, toList_foldName, Text.lowerChars_eq_nil_iff,
    Text.trimChars_eq_nil_iff, Text.isBlankText]

theorem KeyMap.contains_insert {α : Type} (m : KeyMap α) (key k : String) (a : α) :
    (m.insert key a).contains k = (k == key || m.contains k) := by
  rw [contains, get?_insert]
  by_cases hk : k = key
  · simp [hk]
  · simp [hk, contains]

section IndexNodes

variable {tree : String} {index index' : KeyMap Node} {ns : List Node}

/-- Nodes without defects in their names are indexed, on top of nodes with other names. -/
theorem exists_indexNodes (tree : String) {seen : List String}
    (hseen : ∀ k, index.contains k = seen.contains k)
    (h : Validation.nameDefects seen ns = []) :
    ∃ index', indexNodes tree index ns = .ok index' := by
  induction ns generalizing index seen with
  | nil => exact ⟨index, rfl⟩
  | cons n ns ih =>
    rw [Validation.nameDefects] at h
    rw [indexNodes, isEmpty_foldName, hseen]
    split at h
    · cases h
    · rename_i hblank
      dsimp only at h
      split at h
      · cases h
      · rename_i hnew
        rw [if_neg hblank, if_neg hnew]
        -- the name of the node is seen now, and it is a key of the index
        refine ih (fun k ↦ ?_) h
        rw [KeyMap.contains_insert, hseen, List.contains_cons]

/-- The keys of an index are the folded names of its nodes. -/
theorem contains_indexNodes (h : indexNodes tree index ns = .ok index') (k : String) :
    index'.contains k = (index.contains k || (Validation.knownNames ns).contains k) := by
  induction ns generalizing index with
  | nil =>
    rw [indexNodes] at h
    cases h
    simp [Validation.knownNames]
  | cons n ns ih =>
    rw [indexNodes, isEmpty_foldName] at h
    split at h
    · cases h
    · rename_i hblank
      split at h
      · cases h
      · have hknown : Validation.knownNames (n :: ns) =
            foldName n.id :: Validation.knownNames ns := by
          simp [Validation.knownNames, hblank]
        rw [ih h, KeyMap.contains_insert, hknown, List.contains_cons]
        rcases index.contains k <;> simp

/-- What an index finds is among its nodes. -/
theorem mem_of_indexNodes (h : indexNodes tree index ns = .ok index') {k : String} {n : Node}
    (hn : index'.get? k = some n) : n ∈ ns ∨ index.get? k = some n := by
  induction ns generalizing index with
  | nil =>
    rw [indexNodes] at h
    cases h
    exact .inr hn
  | cons m ns ih =>
    rw [indexNodes] at h
    split at h
    · cases h
    · split at h
      · cases h
      · rcases ih h with hmem | hindex
        · exact .inl (List.mem_cons_of_mem m hmem)
        · rw [KeyMap.get?_insert] at hindex
          split at hindex
          · cases hindex
            exact .inl List.mem_cons_self
          · exact .inr hindex

end IndexNodes

namespace IndexedTree

variable {t : IndexedTree}

/-- The names that a tree knows are those that the checks have collected. -/
theorem knows_eq_contains (name : String) :
    t.knows name = (Validation.knownNames t.tree.nodes).contains (foldName name) :=
  (contains_indexNodes t.index_eq (foldName name)).trans (Bool.false_or _)

/-- A node that is found is one of the tree. -/
theorem mem_of_node? {name : String} {n : Node} (h : t.node? name = some n) : n ∈ t.tree.nodes := by
  rcases mem_of_indexNodes t.index_eq h with hmem | hempty
  · exact hmem
  · cases hempty

end IndexedTree

/-! ### What the checks report -/

namespace Validation

variable {d : Defect} {known : List String}

/-- Of a name it is reported that it is blank, or that an earlier node has it. -/
theorem kind_of_mem_nameDefects {seen : List String} {ns : List Node}
    (h : d ∈ nameDefects seen ns) : d = .blankNode ∨ ∃ id, d = .duplicateNode id := by
  induction ns generalizing seen with
  | nil => cases h
  | cons n ns ih =>
    rw [nameDefects] at h
    split at h
    · rcases List.mem_cons.mp h with rfl | hrest
      · exact .inl rfl
      · exact ih hrest
    · dsimp only at h
      split at h
      · rcases List.mem_cons.mp h with rfl | hrest
        · exact .inr ⟨n.id, rfl⟩
        · exact ih hrest
      · exact ih h

/-- A reference is reported for one reason only, that its node is missing. -/
theorem eq_of_mem_referenceDefects {place : Reference} {name : String}
    (h : d ∈ referenceDefects known place name) : d = .missingNode name place := by
  rw [referenceDefects] at h
  split at h
  · cases h
  · exact List.mem_singleton.mp h

/-- The start of a tree is reported if there is none, or if it is missing. -/
theorem kind_of_mem_startDefects {t : Tree} (h : d ∈ startDefects known t) :
    d = .noStart t.id ∨ ∃ start, d = .missingNode start .start := by
  rw [startDefects] at h
  split at h
  · exact .inr ⟨_, eq_of_mem_referenceDefects h⟩
  · exact .inl (List.mem_singleton.mp h)

/-- Of a node it is reported that a reference leads nowhere, that an impact names no variable, or
that its display time is not a number from zero on. -/
theorem kind_of_mem_nodeDefects {n : Node} (h : d ∈ nodeDefects known n) :
    (∃ id place, d = .missingNode id place) ∨ (∃ choice, d = .blankImpact n.id choice) ∨
      ∃ s, n.displayDuration = some s ∧ (s.isFinite = false ∨ s.isBelowZero = true) ∧
        d = .displayDuration n.id s := by
  simp only [nodeDefects, choiceDefects, List.mem_append, List.mem_flatMap, List.mem_map,
    List.mem_filter, Option.mem_toList, Bool.or_eq_true, Bool.not_eq_true'] at h
  rcases h with (⟨name, -, h⟩ | ⟨s, ⟨hs, hunfit⟩, rfl⟩) |
    ⟨p, -, ⟨name, -, h⟩ | ⟨i, -, rfl⟩⟩
  · exact .inl ⟨name, _, eq_of_mem_referenceDefects h⟩
  · exact .inr (.inr ⟨s, hs, hunfit, rfl⟩)
  · exact .inl ⟨name, _, eq_of_mem_referenceDefects h⟩
  · exact .inr (.inl ⟨p.2, rfl⟩)

end Validation

/-! ### What the checks establish -/

/-- What it means for a tree to have no defects. -/
theorem Tree.defects_eq_nil_iff {t : Tree} :
    t.defects = [] ↔
      Text.isBlankText t.id = false ∧ Validation.nameDefects [] t.nodes = [] ∧
        Validation.startDefects (Validation.knownNames t.nodes) t = [] ∧
        (t.typingSpeed.isFinite && t.typingSpeed.isPositive) = true ∧
        ∀ n ∈ t.nodes, Validation.nodeDefects (Validation.knownNames t.nodes) n = [] := by
  simp [defects, List.append_eq_nil_iff, and_assoc]

/-- A tree without defects can be indexed. -/
theorem Tree.exists_indexed {t : Tree} (h : t.defects = []) :
    ∃ it : IndexedTree, t.indexed = .ok it ∧ it.tree = t := by
  obtain ⟨-, hnames, -⟩ := Tree.defects_eq_nil_iff.mp h
  have hseen (k : String) : (KeyMap.empty : KeyMap Node).contains k = [].contains k := rfl
  obtain ⟨index, hindex⟩ := exists_indexNodes t.id hseen hnames
  exact ⟨⟨t, index, hindex⟩, IndexedTree.indexed_tree ⟨t, index, hindex⟩, rfl⟩

/-- A reference without a defect leads to a node. -/
theorem IndexedTree.knows_of_referenceDefects {t : IndexedTree} {place : Reference} {name : String}
    (h : Validation.referenceDefects (Validation.knownNames t.tree.nodes) place name = []) :
    t.knows name = true := by
  rw [Validation.referenceDefects] at h
  split at h
  · rename_i hknown
    rw [knows_eq_contains]
    exact hknown
  · cases h

/-- A command that is not warned of can be read. -/
theorem isCommand_of_lint {node raw : String} (h : Lint.command? node raw = none) :
    isCommand raw = true := by
  rw [Lint.command?] at h
  rw [isCommand]
  split at h
  · rename_i hparse
    rw [hparse]
    rfl
  · cases h

/-- A condition that is not warned of can be read. -/
theorem isReadable_of_lint {node expression : String} {choice : Nat}
    (h : Lint.condition? node choice expression = none) : isReadable (some expression) = true := by
  rw [Lint.condition?] at h
  rw [isReadable]
  split at h
  · rename_i hparse
    rw [hparse]
    rfl
  · cases h

/-- A choice is sound that neither check finds fault with. -/
theorem Choice.sound_of_checks {t : IndexedTree} {node : String} {index : Nat} {c : Choice}
    (hdefects : Validation.choiceDefects (Validation.knownNames t.tree.nodes) node index c = [])
    (hlint : (Lint.conditions c).filterMap (Lint.condition? node index) = []) :
    c.Sound t.knows := by
  obtain ⟨htarget, hkeys⟩ := List.append_eq_nil_iff.mp hdefects
  have hconditions : ∀ expression ∈ Lint.conditions c, isReadable (some expression) = true :=
    fun expression hmem ↦ isReadable_of_lint (List.filterMap_eq_nil_iff.mp hlint expression hmem)
  constructor
  · rcases hcondition : c.condition with - | expression
    · rfl
    · exact hconditions expression (by simp [Lint.conditions, hcondition])
  · intro name hname
    rw [hname, Option.toList_some, List.flatMap_singleton] at htarget
    exact IndexedTree.knows_of_referenceDefects htarget
  · intro i hi
    have hkey : Text.isBlankText i.key = false := by
      rw [List.map_eq_nil_iff, List.filter_eq_nil_iff] at hkeys
      exact eq_false_of_ne_true (hkeys i hi)
    have hreadable : isReadable i.condition = true := by
      rcases hcondition : i.condition with - | expression
      · rfl
      · refine hconditions expression (List.mem_append_right _ ?_)
        exact List.mem_filterMap.mpr ⟨i, hi, hcondition⟩
    rw [Impact.isUsable, hkey, hreadable]
    rfl

/-- A node is sound that neither check finds fault with. -/
theorem Node.sound_of_checks {t : IndexedTree} {n : Node}
    (hdefects : Validation.nodeDefects (Validation.knownNames t.tree.nodes) n = [])
    (hlint : Lint.node n = []) : n.Sound t.knows := by
  obtain ⟨hdefects, hchoices⟩ := List.append_eq_nil_iff.mp hdefects
  obtain ⟨hautoNext, -⟩ := List.append_eq_nil_iff.mp hdefects
  obtain ⟨hcommands, hconditions⟩ := List.append_eq_nil_iff.mp hlint
  have hcommand : ∀ raw ∈ n.startCommands ++ n.endCommands, isCommand raw = true :=
    fun raw hmem ↦ isCommand_of_lint (List.filterMap_eq_nil_iff.mp hcommands raw hmem)
  refine ⟨fun raw hmem ↦ hcommand raw (List.mem_append_left _ hmem),
    fun raw hmem ↦ hcommand raw (List.mem_append_right _ hmem), fun name hname ↦ ?_,
    fun c hc ↦ ?_⟩
  · rw [hname, Option.toList_some, List.flatMap_singleton] at hautoNext
    exact IndexedTree.knows_of_referenceDefects hautoNext
  · -- both checks come across the choice at its position
    obtain ⟨i, hi⟩ := List.mem_iff_getElem?.mp hc
    have hmem : (c, i) ∈ n.choices.zipIdx := List.mem_zipIdx_iff_getElem?.mpr hi
    exact Choice.sound_of_checks (List.flatMap_eq_nil_iff.mp hchoices (c, i) hmem)
      (List.flatMap_eq_nil_iff.mp hconditions (c, i) hmem)

/-- A tree that passes both checks is sound. -/
theorem IndexedTree.sound_of_checks {t : IndexedTree} (hdefects : t.tree.defects = [])
    (hlint : t.tree.lint = []) : t.Sound := by
  obtain ⟨-, -, hstart, -, hnodes⟩ := Tree.defects_eq_nil_iff.mp hdefects
  constructor
  · rw [Validation.startDefects] at hstart
    split at hstart
    · rename_i name hname
      exact ⟨name, hname, knows_of_referenceDefects hstart⟩
    · cases hstart
  · intro name n hn
    have hmem := mem_of_node? hn
    exact Node.sound_of_checks (hnodes n hmem) (List.flatMap_eq_nil_iff.mp hlint n hmem)

end Storyline
