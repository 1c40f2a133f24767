import Mathlib.Data.List.Induction
import Storyline.Proofs.Tree.Sound

/-!
# The checks agree with the index

`Tree.defects` and `Tree.indexed` go through the nodes of a tree on their own: the one collects
what is wrong and goes on behind a blank or a repeated name, the other stops at the first. They
agree all the same. What both say of a node depends on the nodes before it alone
(`Validation.nameDefects_append_singleton`, `indexNodes_append`), and as long as nothing was wrong
they know the same names; so a tree is refused at the node of which the first such defect is
reported, and for that reason (`Tree.RefusedAt`).

In a tree that is not refused, the references that are reported are those that lead nowhere
(`IndexedTree.filterMap_missing?_defects`).
-/

namespace Storyline

/-! ### Names, one node at a time -/

namespace Validation

/-- A node is reported for its name if that is blank, or if it is taken. -/
theorem nameDefects_singleton (seen : List String) (n : Node) :
    nameDefects seen [n] =
      if Text.isBlankText n.id then [.blankNode]
      else if seen.contains (foldName n.id) then [.duplicateNode n.id] else [] := by
  rw [nameDefects]
  rfl

theorem knownNames_cons (n : Node) (ns : List Node) :
    knownNames (n :: ns) =
      if Text.isBlankText n.id then knownNames ns else foldName n.id :: knownNames ns := by
  rcases hblank : Text.isBlankText n.id <;> simp [knownNames, hblank]

/-- What is reported of a node depends on the names that are known before it. -/
theorem nameDefects_append_singleton (seen : List String) (ns : List Node) (n : Node) :
    nameDefects seen (ns ++ [n]) =
      nameDefects seen ns ++ nameDefects (knownNames ns ++ seen) [n] := by
  have hcongr {seen seen' : List String} (h : ∀ k, k ∈ seen ↔ k ∈ seen') :
      nameDefects seen [n] = nameDefects seen' [n] := by
    simp only [nameDefects_singleton, List.contains_iff_mem, h]
  induction ns generalizing seen with
  | nil => rfl
  | cons m ns ih =>
    rw [List.cons_append, nameDefects, nameDefects, knownNames_cons]
    split
    · rw [ih, List.cons_append]
    · dsimp only
      split
      · rename_i hseen
        rw [ih, List.cons_append]
        -- the repeated name was known already
        refine congrArg (_ :: _ ++ ·) (hcongr fun k ↦ ?_)
        grind
      · rw [ih]
        exact congrArg (_ ++ ·) (hcongr fun k ↦ by grind)

end Validation

theorem indexNodes_append (tree : String) (index : KeyMap Node) (ns ms : List Node) :
    indexNodes tree index (ns ++ ms) =
      (indexNodes tree index ns).bind fun index ↦ indexNodes tree index ms := by
  induction ns generalizing index with
  | nil => rfl
  | cons n ns ih =>
    rw [List.cons_append, indexNodes, indexNodes]
    split
    · rfl
    · split
      · rfl
      · exact ih _

/-- A node is refused if its name is blank or taken, and indexed otherwise. -/
theorem indexNodes_singleton (tree : String) (index : KeyMap Node) (n : Node) :
    indexNodes tree index [n] =
      if Text.isBlankText n.id then .error (.blankNode tree)
      else if index.contains (foldName n.id) then .error (.duplicateNode tree n.id)
      else .ok (index.insert (foldName n.id) n) := by
  rw [indexNodes, isEmpty_foldName]
  rfl

/-! ### What a tree is refused for -/

/-- The refusal of a tree that a defect amounts to, if it is one of a name. -/
def Defect.indexError? (tree : String) : Defect → Option IndexError
  | .blankNode => some (.blankNode tree)
  | .duplicateNode id => some (.duplicateNode tree id)
  | _ => none

/-- The reference that leads nowhere, if a defect is that there is one. -/
def Defect.missing? : Defect → Option (Reference × String)
  | .missingNode id place => some (place, id)
  | _ => none

/-- What is wrong with the name of a node behind others. -/
inductive Node.Misnamed (tree : String) (before : List Node) (n : Node) : IndexError → Prop
  /-- It is blank. -/
  | blank (h : Text.isBlankText n.id = true) : Misnamed tree before n (.blankNode tree)
  /-- It is that of one of the others, up to spelling. -/
  | duplicate (h : Text.isBlankText n.id = false) {m : Node} (hm : m ∈ before)
      (hname : foldName m.id = foldName n.id) : Misnamed tree before n (.duplicateNode tree n.id)

namespace Tree

variable (t : Tree)

/-- The defects of names of a tree, in the order of the document, as refusals. -/
def nameErrors : List IndexError := t.defects.filterMap (Defect.indexError? t.id)

/-- The tree with other nodes. -/
def withNodes (ns : List Node) : Tree := { t with nodes := ns }

/-- A tree is refused at a node, for one reason by the index and by the checks. -/
structure RefusedAt (before : List Node) (n : Node) (err : IndexError) : Prop where
  /-- With the nodes before it alone, the tree is indexed. -/
  indexed : ∃ it, (t.withNodes before).indexed = .ok it
  /-- No defect of a name is reported of them. -/
  unreported : (t.withNodes before).nameErrors = []
  /-- With the node behind them, it is refused. -/
  refused : (t.withNodes (before ++ [n])).indexed = .error err
  /-- That is what is reported of the node. -/
  reported : (t.withNodes (before ++ [n])).nameErrors = [err]
  /-- And it is so. -/
  misnamed : n.Misnamed t.id before err

/-- Defects of names are reported of names only. -/
theorem nameErrors_eq :
    t.nameErrors =
      (Validation.nameDefects [] t.nodes).filterMap (Defect.indexError? t.id) := by
  have htree : (if Text.isBlankText t.id then [Defect.blankTree] else []).filterMap
      (Defect.indexError? t.id) = [] := by
    split <;> rfl
  have hstart : (Validation.startDefects (Validation.knownNames t.nodes) t).filterMap
      (Defect.indexError? t.id) = [] := by
    refine List.filterMap_eq_nil_iff.mpr fun d hd ↦ ?_
    rcases Validation.kind_of_mem_startDefects hd with rfl | ⟨start, rfl⟩ <;> rfl
  have hspeed : (if t.typingSpeed.isFinite && t.typingSpeed.isPositive then []
      else [Defect.typingSpeed t.id t.typingSpeed]).filterMap (Defect.indexError? t.id) = [] := by
    split <;> rfl
  have hnodes : (t.nodes.flatMap
      (Validation.nodeDefects (Validation.knownNames t.nodes))).filterMap
        (Defect.indexError? t.id) = [] := by
    refine List.filterMap_eq_nil_iff.mpr fun d hd ↦ ?_
    obtain ⟨n, -, hd⟩ := List.mem_flatMap.mp hd
    rcases Validation.kind_of_mem_nodeDefects hd with
      ⟨id, place, rfl⟩ | ⟨choice, rfl⟩ | ⟨s, -, -, rfl⟩ <;> rfl
  simp only [nameErrors, defects, List.filterMap_append, htree, hstart, hspeed, hnodes,
    List.nil_append, List.append_nil]

end Tree

/-! ### References -/

/-- The references of a node, in the order of the document. -/
def Node.references (n : Node) : List (Reference × String) :=
  n.autoNext.toList.map (.autoNext n.id, ·) ++
    n.choices.zipIdx.flatMap fun p ↦ p.1.nextNode.toList.map (.choice n.id p.2, ·)

/-- The references of a tree, in the order of the document. -/
def Tree.references (t : Tree) : List (Reference × String) :=
  t.startNode.toList.map (.start, ·) ++ t.nodes.flatMap Node.references

namespace Validation

variable (known : List String)

theorem filterMap_missing?_referenceDefects (place : Reference) (name : Option String) :
    (name.toList.flatMap (referenceDefects known place)).filterMap Defect.missing? =
      (name.toList.map (place, ·)).filter fun r ↦ !known.contains (foldName r.2) := by
  rcases name with - | name
  · rfl
  · rw [Option.toList_some, List.flatMap_singleton, referenceDefects, List.map_singleton]
    split <;> simp_all [Defect.missing?]

/-- The references of a node that are reported as missing are those to unknown names. -/
theorem filterMap_missing?_nodeDefects (n : Node) :
    (nodeDefects known n).filterMap Defect.missing? =
      n.references.filter fun r ↦ !known.contains (foldName r.2) := by
  have hchoice (p : Choice × Nat) :
      (choiceDefects known n.id p.2 p.1).filterMap Defect.missing? =
        (p.1.nextNode.toList.map (Reference.choice n.id p.2, ·)).filter
          fun r ↦ !known.contains (foldName r.2) := by
    rw [choiceDefects, List.filterMap_append, filterMap_missing?_referenceDefects,
      List.filterMap_map]
    simp [Defect.missing?]
  rw [nodeDefects, List.filterMap_append, List.filterMap_append,
    filterMap_missing?_referenceDefects, List.filterMap_map, List.filterMap_flatMap,
    Node.references, List.filter_append, List.filter_flatMap]
  simp only [hchoice]
  simp [Defect.missing?]

/-- Nothing that is said of names is about references. -/
theorem filterMap_missing?_nameDefects (seen : List String) (ns : List Node) :
    (nameDefects seen ns).filterMap Defect.missing? = [] := by
  refine List.filterMap_eq_nil_iff.mpr fun d hd ↦ ?_
  rcases kind_of_mem_nameDefects hd with rfl | ⟨id, rfl⟩ <;> rfl

end Validation

/-- The references that are reported are those to names that the checks do not know. -/
theorem Tree.filterMap_missing?_defects (t : Tree) :
    t.defects.filterMap Defect.missing? =
      t.references.filter fun r ↦ !(Validation.knownNames t.nodes).contains (foldName r.2) := by
  have htree : (if Text.isBlankText t.id then [Defect.blankTree] else []).filterMap
      Defect.missing? = [] := by
    split <;> rfl
  have hspeed : (if t.typingSpeed.isFinite && t.typingSpeed.isPositive then []
      else [Defect.typingSpeed t.id t.typingSpeed]).filterMap Defect.missing? = [] := by
    split <;> rfl
  have hstart : (Validation.startDefects (Validation.knownNames t.nodes) t).filterMap
      Defect.missing? = (t.startNode.toList.map (Reference.start, ·)).filter
        fun r ↦ !(Validation.knownNames t.nodes).contains (foldName r.2) := by
    rw [← Validation.filterMap_missing?_referenceDefects, Validation.startDefects]
    rcases t.startNode with - | start
    · rfl
    · rw [Option.toList_some, List.flatMap_singleton]
  simp only [defects, references, List.filterMap_append, List.filter_append, htree, hspeed, hstart,
    Validation.filterMap_missing?_nameDefects, List.filterMap_flatMap, List.filter_flatMap,
    Validation.filterMap_missing?_nodeDefects, List.nil_append, List.append_nil]

/-! ### Indexing -/

namespace Tree

variable {t : Tree}

theorem tree_of_indexed {it : IndexedTree} (h : t.indexed = .ok it) : it.tree = t := by
  rw [indexed] at h
  split at h
  · cases h
    rfl
  · cases h

theorem exists_indexed_iff :
    (∃ it, t.indexed = .ok it) ↔ ∃ index, indexNodes t.id .empty t.nodes = .ok index := by
  constructor
  · rintro ⟨it, hit⟩
    obtain rfl := tree_of_indexed hit
    exact ⟨it.index, it.index_eq⟩
  · rintro ⟨index, hindex⟩
    exact ⟨⟨t, index, hindex⟩, IndexedTree.indexed_tree ⟨t, index, hindex⟩⟩

/-- A tree is refused with the first error among its nodes. -/
theorem indexed_eq_error_iff {err : IndexError} :
    t.indexed = .error err ↔ indexNodes t.id .empty t.nodes = .error err := by
  rw [indexed]
  split
  · rename_i hindex
    exact ⟨fun h ↦ (by cases h), fun h ↦ (by cases hindex.symm.trans h)⟩
  · rename_i hindex
    rw [hindex, Except.error.injEq, Except.error.injEq]

/-- One more node adds what is reported of it to the errors of the nodes before it. -/
theorem nameErrors_append_singleton (t : Tree) (ns : List Node) (n : Node) :
    (t.withNodes (ns ++ [n])).nameErrors = (t.withNodes ns).nameErrors ++
      (Validation.nameDefects (Validation.knownNames ns) [n]).filterMap
        (Defect.indexError? t.id) := by
  have happend := Validation.nameDefects_append_singleton [] ns n
  rw [List.append_nil] at happend
  rw [nameErrors_eq, nameErrors_eq]
  show (Validation.nameDefects [] (ns ++ [n])).filterMap (Defect.indexError? t.id) =
    (Validation.nameDefects [] ns).filterMap (Defect.indexError? t.id) ++ _
  rw [happend, List.filterMap_append]

/-- Where the names before a node are in order, either its own is as well, or the tree is refused at
this node. -/
theorem indexed_or_refusedAt {ns : List Node} (hindexed : ∃ it, (t.withNodes ns).indexed = .ok it)
    (hunreported : (t.withNodes ns).nameErrors = []) (n : Node) :
    ((∃ it, (t.withNodes (ns ++ [n])).indexed = .ok it) ∧
        (t.withNodes (ns ++ [n])).nameErrors = []) ∨
      ∃ err, t.RefusedAt ns n err := by
  obtain ⟨index, hindex⟩ := exists_indexed_iff.mp hindexed
  -- both know the same names by then
  have hknown (k : String) : index.contains k = (Validation.knownNames ns).contains k :=
    (contains_indexNodes hindex k).trans (Bool.false_or _)
  have hnext : indexNodes t.id .empty (ns ++ [n]) = indexNodes t.id index [n] := by
    rw [indexNodes_append, show indexNodes t.id .empty ns = .ok index from hindex, Except.bind]
  have herrors := nameErrors_append_singleton t ns n
  rw [hunreported, List.nil_append, Validation.nameDefects_singleton] at herrors
  rw [indexNodes_singleton, hknown] at hnext
  rcases hblank : Text.isBlankText n.id with - | -
  · rcases hseen : (Validation.knownNames ns).contains (foldName n.id) with - | -
    · simp only [hblank, hseen, Bool.false_eq_true, if_false] at hnext herrors
      exact .inl ⟨exists_indexed_iff.mpr ⟨_, hnext⟩, herrors⟩
    · simp only [hblank, hseen, Bool.false_eq_true, if_false, if_true] at hnext herrors
      obtain ⟨m, hm, hname⟩ := List.mem_map.mp (List.contains_iff_mem.mp hseen)
      exact .inr ⟨.duplicateNode t.id n.id, hindexed, hunreported,
        indexed_eq_error_iff.mpr hnext, herrors,
        .duplicate hblank (List.mem_filter.mp hm).1 hname⟩
  · simp only [hblank, if_true] at hnext herrors
    exact .inr ⟨.blankNode t.id, hindexed, hunreported, indexed_eq_error_iff.mpr hnext, herrors,
      .blank hblank⟩

/-- Either the names of a tree are in order, or it is refused at one of its nodes. -/
theorem names_cases (t : Tree) (ns : List Node) :
    ((∃ it, (t.withNodes ns).indexed = .ok it) ∧ (t.withNodes ns).nameErrors = []) ∨
      ∃ before n after err, ns = before ++ n :: after ∧ t.RefusedAt before n err ∧
        (t.withNodes ns).indexed = .error err ∧ (t.withNodes ns).nameErrors.head? = some err := by
  induction ns using List.reverseRecOn with
  | nil => exact .inl ⟨exists_indexed_iff.mpr ⟨.empty, rfl⟩, by rw [nameErrors_eq]; rfl⟩
  | append_singleton ns n ih =>
    rcases ih with ⟨hindexed, hunreported⟩ |
      ⟨before, m, after, err, hns, hrefused, hindexed, hreported⟩
    · rcases indexed_or_refusedAt hindexed hunreported n with hfine | ⟨err, hrefused⟩
      · exact .inl hfine
      · refine .inr ⟨ns, n, [], err, rfl, hrefused, hrefused.refused, ?_⟩
        rw [hrefused.reported]
        rfl
    · -- what is wrong before the node is decisive
      refine .inr ⟨before, m, after ++ [n], err, by rw [hns]; simp, hrefused, ?_, ?_⟩
      · have herror := indexed_eq_error_iff.mp hindexed
        refine indexed_eq_error_iff.mpr ?_
        show indexNodes t.id .empty (ns ++ [n]) = .error err
        rw [indexNodes_append, show indexNodes t.id .empty ns = .error err from herror,
          Except.bind]
      · rw [nameErrors_append_singleton, List.head?_append, hreported]
        rfl

/-- No name is at fault if neither a blank nor a repeated one is reported. -/
theorem nameErrors_eq_nil_iff (t : Tree) :
    t.nameErrors = [] ↔
      Defect.blankNode ∉ t.defects ∧ ∀ id, Defect.duplicateNode id ∉ t.defects := by
  rw [nameErrors, List.filterMap_eq_nil_iff]
  constructor
  · intro h
    exact ⟨fun hblank ↦ (by cases h _ hblank), fun id hid ↦ (by cases h _ hid)⟩
  · rintro ⟨hblank, hduplicate⟩ d hd
    cases d with
    | blankNode => exact absurd hd hblank
    | duplicateNode id => exact absurd hd (hduplicate id)
    | _ => rfl

end Tree

/-- The references that are reported of an indexed tree are those that lead to none of its nodes. -/
theorem IndexedTree.filterMap_missing?_defects (it : IndexedTree) :
    it.tree.defects.filterMap Defect.missing? =
      it.tree.references.filter fun r ↦ (it.node? r.2).isNone := by
  have hknown (name : String) : (!(Validation.knownNames it.tree.nodes).contains (foldName name)) =
      (it.node? name).isNone := by
    rw [← it.knows_eq_contains, knows, Option.not_isSome]
  rw [it.tree.filterMap_missing?_defects]
  simp only [hknown]

/-- A tree is indexed exactly if neither a blank nor a repeated name of a node is reported of it; if
it is refused, then at the node of which the first of these is reported, and for that reason; and if
it is indexed, then the references that are reported missing are those that lead to no node. -/
theorem Tree.checks_agree (t : Tree) :
    ((∃ it, t.indexed = .ok it) ↔
        Defect.blankNode ∉ t.defects ∧ ∀ id, Defect.duplicateNode id ∉ t.defects) ∧
      (∀ err, t.indexed = .error err → t.nameErrors.head? = some err ∧
        ∃ before n after, t.nodes = before ++ n :: after ∧ t.RefusedAt before n err) ∧
      ∀ it, t.indexed = .ok it →
        t.defects.filterMap Defect.missing? =
          t.references.filter fun r ↦ (it.node? r.2).isNone := by
  have hsame : t.withNodes t.nodes = t := rfl
  have hcases := t.names_cases t.nodes
  rw [hsame] at hcases
  rw [← t.nameErrors_eq_nil_iff]
  refine ⟨?_, ?_, ?_⟩
  · rcases hcases with ⟨hindexed, hnone⟩ | ⟨before, n, after, err, -, -, hindexed, hreported⟩
    · exact ⟨fun _ ↦ hnone, fun _ ↦ hindexed⟩
    · obtain ⟨later, herrors⟩ := List.head?_eq_some_iff.mp hreported
      simp [hindexed, herrors]
  · intro err herr
    rcases hcases with ⟨⟨it, hit⟩, -⟩ | ⟨before, n, after, err', hns, hrefused, hindexed, hreported⟩
    · cases hit.symm.trans herr
    · cases hindexed.symm.trans herr
      exact ⟨hreported, before, n, after, hns, hrefused⟩
  · intro it hit
    obtain rfl := tree_of_indexed hit
    exact it.filterMap_missing?_defects

/-! ### A mansion -/

/-- Two nodes that refer to each other in other spellings, and to nodes that are not there. -/
def mansion : Tree where
  id := "mansion"
  startNode := some " HALL"
  nodes :=
    [{ id := "Hall"
       choices :=
        [{ text := "Down", nextNode := some "cellar" }, { text := "Up", nextNode := some "Attic" },
          { text := "Out" }, { text := "On", nextNode := some " " }]
       autoNext := some "stairs" },
      { id := "attic", autoNext := some "hall " }]

/-- The mansion with a second attic and a room without a name. -/
def clutteredMansion : Tree :=
  { mansion with nodes := mansion.nodes ++ [{ id := " ATTIC" }, { id := "\t" }] }

/-- In the mansion three references lead nowhere. With the other rooms it is refused at one of them,
for the name of the attic. -/
theorem Tree.checks_agree_mansion :
    (∃ it, mansion.indexed = .ok it ∧
        mansion.references.filter (fun r ↦ (it.node? r.2).isNone) =
          [(.autoNext "Hall", "stairs"), (.choice "Hall" 0, "cellar"),
            (.choice "Hall" 3, " ")]) ∧
      clutteredMansion.indexed = .error (.duplicateNode "mansion" " ATTIC") ∧
      ∃ before n after, clutteredMansion.nodes = before ++ n :: after ∧
        clutteredMansion.RefusedAt before n (.duplicateNode "mansion" " ATTIC") := by
  obtain ⟨hiff, -, hmissing⟩ := mansion.checks_agree
  obtain ⟨-, hrefused, -⟩ := clutteredMansion.checks_agree
  have hdefects : mansion.defects =
      [.missingNode "stairs" (.autoNext "Hall"), .missingNode "cellar" (.choice "Hall" 0),
        .missingNode " " (.choice "Hall" 3)] := by
    decide +kernel
  have hindexed : ∃ it, mansion.indexed = .ok it := hiff.mpr (by simp [hdefects])
  have herror : clutteredMansion.indexed = .error (.duplicateNode "mansion" " ATTIC") := by
    decide +kernel
  obtain ⟨it, hit⟩ := hindexed
  refine ⟨⟨it, hit, ?_⟩, herror, (hrefused _ herror).2⟩
  rw [← hmissing it hit, hdefects]
  rfl

end Storyline
