import Mathlib.Data.List.Nodup
import Storyline.Proofs.Schedule.Queue
import Storyline.Schedule.Call

/-!
# The tasks of an agenda

In an agenda no two tasks have one handle, and the next handle is above those that have been given
(`Agenda.Orderly`). So the entry that comes due first is determined: it is the one whose place is
before the places of all others (`Agenda.first?_eq_some_iff`).

Over a run of calls the books balance (`Agenda.isPending_stateAfter`): what waits is what began to
wait and has not ceased to, and no task ceases to wait twice (`Agenda.nodup_ceased`).
-/

namespace Storyline

namespace Agenda

open Schedule (Call Exchange began ceased exchanges stateAfter)

variable {τ : Type} {a : Agenda τ}

/-- No two tasks have one handle, and the next handle is above all that have been given. -/
structure Orderly (a : Agenda τ) : Prop where
  /-- The handles differ. -/
  distinct : (a.entries.map (·.1)).Nodup
  /-- The next handle is above them. -/
  lt_next : ∀ e ∈ a.entries, e.1 < a.next

theorem orderly_empty : ({} : Agenda τ).Orderly where
  distinct := .nil
  lt_next e he := by simp at he

theorem isPending_iff {handle : Nat} :
    a.isPending handle = true ↔ ∃ e ∈ a.entries, e.1 = handle := by
  simp only [isPending, List.any_eq_true, beq_iff_eq]

/-- A pending handle was given before. -/
theorem Orderly.lt_of_isPending (h : a.Orderly) {handle : Nat}
    (hpending : a.isPending handle = true) : handle < a.next := by
  obtain ⟨e, he, rfl⟩ := isPending_iff.mp hpending
  exact h.lt_next e he

/-- An entry is determined by its handle. -/
theorem Orderly.eq_of_handle_eq (h : a.Orderly) {e f : Nat × Deferred τ} (he : e ∈ a.entries)
    (hf : f ∈ a.entries) (heq : e.1 = f.1) : e = f :=
  List.inj_on_of_nodup_map h.distinct he hf heq

/-! ### The entry that comes due first -/

/-- The place of an entry in a queue. -/
def place (e : Nat × Deferred τ) : Place := (e.2.due, e.1)

theorem earlier_eq_ite (e f : Nat × Deferred τ) :
    earlier e f = if Place.before (place f) (place e) then f else e := rfl

/-- Neither of two entries stands before the earlier one. -/
theorem not_before_earlier_left (e f : Nat × Deferred τ) :
    ¬ Place.before (place e) (place (earlier e f)) = true := by
  rw [earlier_eq_ite]
  split
  · rename_i hbefore
    rw [Place.before_iff] at hbefore ⊢
    omega
  · rw [Place.before_iff]
    omega

theorem not_before_earlier_right (e f : Nat × Deferred τ) :
    ¬ Place.before (place f) (place (earlier e f)) = true := by
  rw [earlier_eq_ite]
  split
  · rw [Place.before_iff]
    omega
  · assumption

/-- Taking the earlier of two entries again and again gives one of them that none is before. -/
theorem foldl_earlier_spec (e : Nat × Deferred τ) (es : List (Nat × Deferred τ)) :
    es.foldl earlier e ∈ e :: es ∧
      ∀ f ∈ e :: es, ¬ Place.before (place f) (place (es.foldl earlier e)) = true := by
  induction es generalizing e with
  | nil =>
    refine ⟨by simp, fun f hf ↦ ?_⟩
    obtain rfl : f = e := by simpa using hf
    rw [Place.before_iff]
    simp
  | cons x xs ih =>
    obtain ⟨hmem, hleast⟩ := ih (earlier e x)
    have hearlier : earlier e x = x ∨ earlier e x = e := by
      rw [earlier_eq_ite]
      split
      · exact .inl rfl
      · exact .inr rfl
    rw [List.foldl_cons]
    refine ⟨?_, fun f hf ↦ ?_⟩
    · rcases List.mem_cons.mp hmem with heq | hmem
      · rw [heq]
        rcases hearlier with h | h <;> simp [h]
      · simp [hmem]
    · -- both `e` and `x` are no earlier than the earlier of them, which is no earlier than the rest
      have hfirst := hleast (earlier e x) (by simp)
      have hleft := not_before_earlier_left e x
      have hright := not_before_earlier_right e x
      simp only [List.mem_cons] at hf
      rcases hf with rfl | rfl | hf
      · rw [Place.before_iff] at hfirst hleft ⊢
        omega
      · rw [Place.before_iff] at hfirst hright ⊢
        omega
      · exact hleast f (by simp [hf])

/-- The entry that comes due first is the one whose place is before those of all others. -/
theorem first?_eq_some_iff (h : a.Orderly) {e : Nat × Deferred τ} :
    a.first? = some e ↔
      e ∈ a.entries ∧ ∀ f ∈ a.entries, f.1 ≠ e.1 → Place.before (place e) (place f) = true := by
  have hspec : ∀ d, a.first? = some d →
      d ∈ a.entries ∧ ∀ f ∈ a.entries, ¬ Place.before (place f) (place d) = true := by
    intro d hd
    rw [first?] at hd
    rcases hentries : a.entries with - | ⟨x, xs⟩
    · simp [hentries] at hd
    · rw [hentries] at hd
      obtain rfl := Option.some.inj hd
      exact foldl_earlier_spec x xs
  constructor
  · intro he
    obtain ⟨hmem, hleast⟩ := hspec e he
    exact ⟨hmem, fun f hf hne ↦ Place.before_of_not_before hne (hleast f hf)⟩
  · rintro ⟨hmem, hbefore⟩
    -- there is a first entry, and one of another handle would be before `e` and behind it
    obtain ⟨d, hd⟩ : ∃ d, a.first? = some d := by
      rw [first?]
      rcases hentries : a.entries with - | ⟨x, xs⟩
      · simp [hentries] at hmem
      · exact ⟨_, rfl⟩
    obtain ⟨hdmem, hleast⟩ := hspec d hd
    have hhandle : d.1 = e.1 := by
      by_contra hne
      exact hleast e hmem (hbefore d hdmem hne)
    rw [hd, h.eq_of_handle_eq hdmem hmem hhandle]

/-- What taking out the next task does: the first entry leaves if its time has come, and otherwise
nothing changes. -/
theorem popDue_cases (h : a.Orderly) :
    (∃ e, e ∈ a.entries ∧ ¬ a.now < e.2.due ∧
      a.popDue = (some e, { a with entries := a.entries.filter (·.1 != e.1) })) ∨
    (a.popDue = (none, a) ∧ ∀ e, a.first? = some e → a.now < e.2.due) := by
  rw [popDue]
  rcases hfirst : a.first? with - | e
  · exact .inr ⟨rfl, fun e he ↦ by cases he⟩
  · by_cases hdue : a.now < e.2.due
    · refine .inr ⟨if_pos hdue, fun f hf ↦ ?_⟩
      obtain rfl := Option.some.inj hf
      exact hdue
    · exact .inl ⟨e, ((first?_eq_some_iff h).mp hfirst).1, hdue, if_neg hdue⟩

/-! ### One call -/

/-- Without some of its tasks, an agenda is still orderly. -/
theorem Orderly.filter (h : a.Orderly) (p : Nat × Deferred τ → Bool) :
    ({ a with entries := a.entries.filter p } : Agenda τ).Orderly where
  distinct := h.distinct.sublist (List.filter_sublist.map _)
  lt_next e he := h.lt_next e (List.mem_of_mem_filter he)

theorem isPending_filter_ne (a : Agenda τ) (handle k : Nat) :
    ({ a with entries := a.entries.filter (·.1 != handle) } : Agenda τ).isPending k = true ↔
      a.isPending k = true ∧ k ≠ handle := by
  simp only [isPending_iff, List.mem_filter, bne_iff_ne]
  constructor
  · rintro ⟨e, ⟨he, hne⟩, rfl⟩
    exact ⟨⟨e, he, rfl⟩, hne⟩
  · rintro ⟨⟨e, he, rfl⟩, hne⟩
    exact ⟨e, ⟨he, hne⟩, rfl⟩

/-- Calls keep an agenda in order. -/
theorem Orderly.answer (h : a.Orderly) (c : Call τ) : (a.answer c).2.Orderly := by
  cases c with
  | scheduleIn delay task note =>
    constructor
    · -- the new handle is above those that were given
      rw [Agenda.answer, scheduleIn, List.map_append, List.nodup_append]
      refine ⟨h.distinct, by simp, fun k hk l hl ↦ ?_⟩
      obtain ⟨e, he, rfl⟩ := List.mem_map.mp hk
      obtain rfl : l = a.next := by simpa using hl
      exact Nat.ne_of_lt (h.lt_next e he)
    · intro e he
      show e.1 < a.next + 1
      rcases List.mem_append.mp he with he | he
      · have hlt := h.lt_next e he
        omega
      · rw [List.mem_singleton.mp he]
        exact Nat.lt_succ_self a.next
  | cancel handle => exact h.filter _
  | popDue =>
    rcases popDue_cases h with ⟨e, -, -, hpop⟩ | ⟨hpop, -⟩
    · show a.popDue.2.Orderly
      rw [hpop]
      exact h.filter _
    · show a.popDue.2.Orderly
      rw [hpop]
      exact h
  | advance elapsed => exact ⟨h.distinct, h.lt_next⟩
  | isPending handle => exact h
  | size => exact h
  | isEmpty => exact h
  | now => exact h

/-- A call makes wait what begins to wait by it, and nothing waits that ceases to. -/
theorem isPending_answer (h : a.Orderly) (c : Call τ) (handle : Nat) :
    (a.answer c).2.isPending handle = true ↔
      (a.isPending handle = true ∨ Exchange.began? (c, (a.answer c).1) = some handle) ∧
        Exchange.ceased? (c, (a.answer c).1) ≠ some handle := by
  cases c with
  | scheduleIn delay task note =>
    simp [Agenda.answer, scheduleIn, Exchange.began?, Exchange.ceased?, isPending, or_comm]
  | cancel k =>
    rw [Agenda.answer, cancel]
    dsimp only
    rw [isPending_filter_ne]
    rcases hpending : a.isPending k with - | -
    · -- a task that does not wait cannot be meant by `handle`
      simp only [Exchange.began?, Exchange.ceased?, reduceCtorEq, or_false, ne_eq,
        not_false_eq_true, and_true, and_iff_left_iff_imp]
      rintro hhandle rfl
      rw [hpending] at hhandle
      cases hhandle
    · simp only [Exchange.began?, Exchange.ceased?, reduceCtorEq, or_false, ne_eq,
        Option.some.injEq]
      exact and_congr_right fun _ ↦ ne_comm
  | popDue =>
    rw [Agenda.answer]
    rcases popDue_cases h with ⟨e, -, -, hpop⟩ | ⟨hpop, -⟩
    · rw [hpop]
      dsimp only
      rw [isPending_filter_ne]
      simp only [Exchange.began?, Exchange.ceased?, reduceCtorEq, or_false, ne_eq,
        Option.some.injEq]
      exact and_congr_right fun _ ↦ ne_comm
    · rw [hpop]
      simp [Exchange.began?, Exchange.ceased?]
  | advance elapsed => simp [Agenda.answer, advance, Exchange.began?, Exchange.ceased?, isPending]
  | isPending k => simp [Agenda.answer, Exchange.began?, Exchange.ceased?]
  | size => simp [Agenda.answer, Exchange.began?, Exchange.ceased?]
  | isEmpty => simp [Agenda.answer, Exchange.began?, Exchange.ceased?]
  | now => simp [Agenda.answer, Exchange.began?, Exchange.ceased?]

/-- A task that begins to wait has the next handle, which is then given. -/
theorem next_of_began? {c : Call τ} {handle : Nat}
    (h : Exchange.began? (c, (a.answer c).1) = some handle) :
    handle = a.next ∧ a.next < (a.answer c).2.next := by
  cases c with
  | scheduleIn delay task note => exact ⟨(Option.some.inj h).symm, Nat.lt_succ_self a.next⟩
  | _ => cases h

/-- Handles are never given back. -/
theorem next_le_answer (h : a.Orderly) (c : Call τ) : a.next ≤ (a.answer c).2.next := by
  cases c with
  | scheduleIn delay task note => exact Nat.le_succ a.next
  | popDue =>
    show a.next ≤ a.popDue.2.next
    have hnext : a.popDue.2.next = a.next := by
      rcases popDue_cases h with ⟨e, -, -, hpop⟩ | ⟨hpop, -⟩ <;> rw [hpop]
    exact Nat.le_of_eq hnext.symm
  | _ => exact Nat.le_refl a.next

/-- Only a task that waits can cease to. -/
theorem isPending_of_ceased? (h : a.Orderly) {c : Call τ} {handle : Nat}
    (hceased : Exchange.ceased? (c, (a.answer c).1) = some handle) :
    a.isPending handle = true := by
  cases c with
  | cancel k =>
    rw [Agenda.answer, cancel] at hceased
    rcases hpending : a.isPending k with - | -
    · simp [Exchange.ceased?, hpending] at hceased
    · obtain rfl : k = handle := by simpa [Exchange.ceased?, hpending] using hceased
      exact hpending
  | popDue =>
    rw [Agenda.answer] at hceased
    rcases popDue_cases h with ⟨e, he, -, hpop⟩ | ⟨hpop, -⟩
    · rw [hpop] at hceased
      exact isPending_iff.mpr ⟨e, he, Option.some.inj hceased⟩
    · rw [hpop] at hceased
      cases hceased
  | _ => cases hceased

/-! ### Runs of calls -/

theorem mem_began_cons {es : List (Exchange τ)} {x : Exchange τ} {handle : Nat} :
    handle ∈ began (x :: es) ↔ Exchange.began? x = some handle ∨ handle ∈ began es := by
  simp [began, or_and_right, exists_or]

theorem mem_ceased_cons {es : List (Exchange τ)} {x : Exchange τ} {handle : Nat} :
    handle ∈ ceased (x :: es) ↔ Exchange.ceased? x = some handle ∨ handle ∈ ceased es := by
  simp [ceased, or_and_right, exists_or]

/-- Handles that are given in a run are new. -/
theorem next_le_of_mem_began (h : a.Orderly) {calls : List (Call τ)} {handle : Nat}
    (hmem : handle ∈ began (exchanges answer a calls)) : a.next ≤ handle := by
  induction calls generalizing a with
  | nil => simp [exchanges, began] at hmem
  | cons c cs ih =>
    rcases mem_began_cons.mp hmem with hbegan | hmem
    · exact Nat.le_of_eq (next_of_began? hbegan).1.symm
    · exact Nat.le_trans (next_le_answer h c) (ih (h.answer c) hmem)

/-- A task that has ceased to wait does not begin to again. -/
theorem not_mem_began_of_ceased? (h : a.Orderly) {c : Call τ} {handle : Nat}
    (hceased : Exchange.ceased? (c, (a.answer c).1) = some handle) (calls : List (Call τ)) :
    handle ∉ began (exchanges answer (a.answer c).2 calls) := by
  intro hmem
  have hlt := h.lt_of_isPending (isPending_of_ceased? h hceased)
  have hle := next_le_of_mem_began (h.answer c) hmem
  have hnext := next_le_answer h c
  omega

/-- What ceases to wait in a run waited before it, or began to in it. -/
theorem waited_of_mem_ceased (h : a.Orderly) {calls : List (Call τ)} {handle : Nat}
    (hmem : handle ∈ ceased (exchanges answer a calls)) :
    a.isPending handle = true ∨ handle ∈ began (exchanges answer a calls) := by
  induction calls generalizing a with
  | nil => simp [exchanges, ceased] at hmem
  | cons c cs ih =>
    rw [exchanges, mem_began_cons]
    rcases mem_ceased_cons.mp hmem with hceased | hmem
    · exact .inl (isPending_of_ceased? h hceased)
    · rcases ih (h.answer c) hmem with hpending | hbegan
      · rcases ((isPending_answer h c handle).mp hpending).1 with hpending | hbegan
        · exact .inl hpending
        · exact .inr (.inl hbegan)
      · exact .inr (.inr hbegan)

/-- What waits after a run is what waited or began to, less what ceased to. -/
theorem isPending_stateAfter (h : a.Orderly) (calls : List (Call τ)) (handle : Nat) :
    (stateAfter answer a calls).isPending handle = true ↔
      (a.isPending handle = true ∨ handle ∈ began (exchanges answer a calls)) ∧
        handle ∉ ceased (exchanges answer a calls) := by
  induction calls generalizing a with
  | nil => simp [stateAfter, exchanges, began, ceased]
  | cons c cs ih =>
    have hnew : Exchange.ceased? (c, (a.answer c).1) = some handle →
        handle ∉ began (exchanges answer (a.answer c).2 cs) := fun hceased ↦
      not_mem_began_of_ceased? h hceased cs
    rw [stateAfter, List.foldl_cons, ← stateAfter, ih (h.answer c), isPending_answer h c handle,
      exchanges, mem_began_cons, mem_ceased_cons]
    grind

/-- No task ceases to wait twice. -/
theorem nodup_ceased (h : a.Orderly) (calls : List (Call τ)) :
    (ceased (exchanges answer a calls)).Nodup := by
  induction calls generalizing a with
  | nil => exact .nil
  | cons c cs ih =>
    have hrest := ih (h.answer c)
    rcases hceased : Exchange.ceased? (c, (a.answer c).1) with - | handle
    · rw [exchanges, ceased, List.filterMap_cons_none hceased]
      exact hrest
    · rw [exchanges, ceased, List.filterMap_cons_some hceased]
      refine List.nodup_cons.mpr ⟨fun hmem ↦ ?_, hrest⟩
      -- the first call left `handle` waiting no more, and no later one gives it again
      rcases waited_of_mem_ceased (h.answer c) hmem with hpending | hbegan
      · exact ((isPending_answer h c handle).mp hpending).2 hceased
      · exact not_mem_began_of_ceased? h hceased cs hbegan

end Agenda

end Storyline
