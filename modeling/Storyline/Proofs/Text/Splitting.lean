import Mathlib.Data.List.Infix
import Storyline.Proofs.Text.Folding
import Storyline.Text.Split

/-!
# Where a text is split

A text is split at the first place of a token or at the last place of a mark. There is one thing to
know of the two parts besides what they make up: the token does not stand any earlier
(`splitAtFirst?_eq_some_iff_of_ne_nil`), and the mark not any later (`splitAtLast?_eq_some_iff`).
That a token does not stand earlier is said of the part before it together with all but the last
character of the token, for two places of a token may overlap; a single character is then missing
from the part before it (`splitAtFirst?_eq_some_iff`).

Where blanks are put into a text, no token without blanks becomes complete
(`infix_of_infix_blanks`). Where they are put around it, they are gone once it is trimmed
(`trimChars_blanks_append`, `trimChars_append_blanks`), and trimming reaches no further than to the
first character that is not blank (`trimChars_append_append`). What is put together from two parts
has no blanks at its ends if the first part has none in front and the second none at its back
(`Trimmed.append`).
-/

namespace Storyline.Text

variable {mark : Char} {token cs before after : List Char}

/-! ### The first place -/

theorem not_infix_dropLast (h : token ≠ []) : ¬token <:+: token.dropLast := by
  intro hstands
  have hle := hstands.length_le
  have hpos := List.length_pos_of_ne_nil h
  rw [List.length_dropLast] at hle
  omega

theorem isPrefix_append_dropLast (before token after : List Char) :
    before ++ token.dropLast <+: before ++ token ++ after := by
  rw [List.append_assoc, List.prefix_append_right_inj]
  exact (List.dropLast_prefix token).trans (List.prefix_append token after)

/-- A token that stands in front of a text as well as further back stands before the end of its
later place. -/
theorem infix_append_dropLast (hbefore : before ≠ []) (h : token <+: before ++ token ++ after) :
    token <:+: before ++ token.dropLast := by
  have hlength : token.length ≤ (before ++ token.dropLast).length := by
    have hpos := List.length_pos_of_ne_nil hbefore
    rw [List.length_append, List.length_dropLast]
    omega
  exact (List.prefix_of_prefix_length_le h (isPrefix_append_dropLast _ _ _) hlength).isInfix

/-- A text is not split if the token does not occur in it. -/
theorem splitAtFirst?_eq_none_iff_of_ne_nil (h : token ≠ []) :
    splitAtFirst? token cs = none ↔ ¬token <:+: cs := by
  induction cs with
  | nil => simp [splitAtFirst?, h]
  | cons c cs ih =>
    rw [splitAtFirst?, List.infix_cons_iff, not_or, ← ih, ← List.isPrefixOf_iff_prefix]
    by_cases hhead : token.isPrefixOf (c :: cs) = true
    · simp [hhead]
    · simp [hhead]

/-- At its first place, a token stands between the two parts, and nowhere in the part before it,
not even with all but its own last character added. -/
theorem splitAtFirst?_eq_some_iff_of_ne_nil (h : token ≠ []) :
    splitAtFirst? token cs = some (before, after) ↔
      cs = before ++ token ++ after ∧ ¬token <:+: before ++ token.dropLast := by
  induction cs generalizing before with
  | nil => simp [splitAtFirst?, h]
  | cons c cs ih =>
    rw [splitAtFirst?]
    by_cases hhead : token.isPrefixOf (c :: cs) = true
    · rw [if_pos hhead]
      obtain ⟨rest, hrest⟩ := List.isPrefixOf_iff_prefix.mp hhead
      rw [← hrest, List.drop_left, Option.some_inj, Prod.mk.injEq]
      constructor
      · rintro ⟨rfl, rfl⟩
        exact ⟨rfl, not_infix_dropLast h⟩
      · rintro ⟨htext, hfirst⟩
        rcases Decidable.em (before = []) with rfl | hbefore
        · exact ⟨rfl, List.append_cancel_left htext⟩
        · have hfront : token <+: before ++ token ++ after := ⟨rest, htext⟩
          exact absurd (infix_append_dropLast hbefore hfront) hfirst
    · rw [if_neg hhead, Option.map_eq_some_iff]
      rw [List.isPrefixOf_iff_prefix] at hhead
      constructor
      · rintro ⟨⟨b, a⟩, hsplit, hparts⟩
        cases hparts
        obtain ⟨rfl, hfirst⟩ := ih.mp hsplit
        refine ⟨rfl, ?_⟩
        rw [List.cons_append, List.infix_cons_iff, not_or]
        exact ⟨fun hp ↦ hhead (hp.trans (isPrefix_append_dropLast (c :: b) token a)), hfirst⟩
      · rintro ⟨htext, hfirst⟩
        rcases before with - | ⟨b, before⟩
        · exact absurd ⟨after, htext.symm⟩ hhead
        · obtain ⟨rfl, rfl⟩ := List.cons.inj htext
          rw [List.cons_append, List.infix_cons_iff, not_or] at hfirst
          exact ⟨(before, after), ih.mpr ⟨rfl, hfirst.2⟩, rfl⟩

theorem splitAtFirst?_eq_none_iff : splitAtFirst? [mark] cs = none ↔ mark ∉ cs := by
  rw [splitAtFirst?_eq_none_iff_of_ne_nil (List.cons_ne_nil mark []), List.singleton_infix_iff]

/-- The mark is missing from the part before its first place. -/
theorem splitAtFirst?_eq_some_iff :
    splitAtFirst? [mark] cs = some (before, after) ↔
      cs = before ++ mark :: after ∧ mark ∉ before := by
  rw [splitAtFirst?_eq_some_iff_of_ne_nil (List.cons_ne_nil mark []), List.append_assoc,
    List.dropLast_singleton, List.append_nil, List.singleton_infix_iff]
  rfl

/-! ### The last place -/

theorem splitAtLast?_eq_none_iff : splitAtLast? mark cs = none ↔ mark ∉ cs := by
  induction cs with
  | nil => simp [splitAtLast?]
  | cons c cs ih =>
    rw [splitAtLast?, List.mem_cons, not_or, ← ih]
    rcases splitAtLast? mark cs with - | p
    · simp [eq_comm]
    · simp

/-- The mark is missing from the part behind its last place. -/
theorem splitAtLast?_eq_some_iff :
    splitAtLast? mark cs = some (before, after) ↔
      cs = before ++ mark :: after ∧ mark ∉ after := by
  induction cs generalizing before with
  | nil => simp [splitAtLast?]
  | cons c cs ih =>
    rw [splitAtLast?]
    rcases hcs : splitAtLast? mark cs with - | p
    · have hmark : mark ∉ cs := splitAtLast?_eq_none_iff.mp hcs
      rcases before with - | ⟨b, before⟩
      · by_cases hc : c = mark
        · simp only [hc, if_true, Option.some_inj, Prod.mk.injEq, List.nil_append]
          grind
        · simp [hc]
      · grind
    · have hmark : mark ∈ cs := Decidable.byContradiction fun hmark ↦ by
        rw [splitAtLast?_eq_none_iff.mpr hmark] at hcs
        cases hcs
      -- the last place is behind the first character
      rw [hcs] at ih
      rcases before with - | ⟨b, before⟩
      · grind
      · grind

/-! ### Tokens and other characters -/

theorem eq_nil_of_prefix_cons {c : Char} (hc : c ∉ token) (h : token <+: c :: cs) : token = [] := by
  rcases List.prefix_cons_iff.mp h with h | ⟨rest, rfl, -⟩
  · exact h
  · exact absurd List.mem_cons_self hc

/-- A token does not reach over a character that it does not have. -/
theorem infix_append_cons_iff {c : Char} (hc : c ∉ token) :
    token <:+: before ++ c :: after ↔ token <:+: before ∨ token <:+: after := by
  constructor
  · intro h
    rcases List.infix_append_iff.mp h with h | h | ⟨front, back, rfl, hfront, hback⟩
    · exact .inl h
    · rcases List.infix_cons_iff.mp h with h | h
      · rw [eq_nil_of_prefix_cons hc h]
        exact .inl List.nil_infix
      · exact .inr h
    · rw [eq_nil_of_prefix_cons (fun hback ↦ hc (List.mem_append_right _ hback)) hback,
        List.append_nil]
      exact .inl hfront.isInfix
  · rintro (h | h)
    · exact h.trans (List.prefix_append _ _).isInfix
    · exact h.trans ((List.suffix_cons c after).trans (List.suffix_append _ _)).isInfix

/-- Blanks that are put into a text make no token complete that has none. -/
theorem infix_of_infix_blanks {blanks : List Char} (htoken : ∀ c ∈ token, isBlank c = false)
    (hblanks : blanks.all isBlank = true) (h : token <:+: before ++ blanks ++ after) :
    token <:+: before ++ after := by
  induction blanks generalizing before with
  | nil => rwa [List.append_nil] at h
  | cons c blanks ih =>
    rw [List.all_cons, Bool.and_eq_true] at hblanks
    have hc : c ∉ token := fun hmem ↦ by
      rw [htoken c hmem] at hblanks
      cases hblanks.1
    rw [List.append_assoc, List.cons_append, infix_append_cons_iff hc] at h
    rcases h with h | h
    · exact h.trans (List.prefix_append _ _).isInfix
    · have hafter : token <:+: [] ++ after := ih hblanks.2 h
      exact hafter.trans (List.suffix_append _ _).isInfix

/-! ### Ends without blanks -/

theorem mem_of_mem_trimEnd {c : Char} {cs : List Char} (h : c ∈ trimEnd cs) : c ∈ cs := by
  induction cs with
  | nil => exact h
  | cons d ds ih =>
    by_cases hds : trimEnd ds = []
    · rw [trimEnd_cons_of_eq_nil hds] at h
      split at h
      · cases h
      · exact List.mem_cons.mpr (.inl (List.mem_singleton.mp h))
    · rw [trimEnd_cons_of_ne_nil hds, List.mem_cons] at h
      exact List.mem_cons.mpr (h.imp_right ih)

theorem mem_of_mem_trimChars {c : Char} {cs : List Char} (h : c ∈ trimChars cs) : c ∈ cs :=
  (List.dropWhile_sublist _).mem (mem_of_mem_trimEnd h)

/-- A text without blanks is trimmed. -/
theorem trimmed_of_forall (h : ∀ c ∈ cs, isBlank c = false) : Trimmed cs :=
  ⟨fun c hc ↦ h c (List.mem_of_mem_head? hc), fun c hc ↦ h c (List.mem_of_getLast? hc)⟩

theorem trimmed_singleton {c : Char} (h : isBlank c = false) : Trimmed [c] := by
  simpa [Trimmed] using h

/-- Trimmed texts are trimmed together. -/
theorem Trimmed.append {cs ds : List Char} (hcs : Trimmed cs) (hds : Trimmed ds) :
    Trimmed (cs ++ ds) := by
  constructor
  · intro c hc
    rw [List.head?_append, Option.mem_def, Option.or_eq_some_iff] at hc
    exact hc.elim (hcs.1 c) fun h ↦ hds.1 c h.2
  · intro c hc
    rw [List.getLast?_append, Option.mem_def, Option.or_eq_some_iff] at hc
    exact hc.elim (hds.2 c) fun h ↦ hcs.2 c h.2

/-! ### Blanks at the ends -/

theorem trimEnd_eq_nil_iff : trimEnd cs = [] ↔ cs.all isBlank = true := by
  induction cs with
  | nil => simp [trimEnd]
  | cons c cs ih =>
    rw [List.all_cons, Bool.and_eq_true, ← ih]
    by_cases hcs : trimEnd cs = []
    · rw [trimEnd_cons_of_eq_nil hcs]
      simp [hcs]
    · rw [trimEnd_cons_of_ne_nil hcs]
      simp [hcs]

/-- The end of a text is trimmed in its last part, and before that only if nothing is left of that
part. -/
theorem trimEnd_append (cs ds : List Char) :
    trimEnd (cs ++ ds) = if trimEnd ds = [] then trimEnd cs else cs ++ trimEnd ds := by
  induction cs with
  | nil =>
    rw [List.nil_append, trimEnd, List.nil_append]
    split
    · assumption
    · rfl
  | cons c cs ih =>
    rw [List.cons_append]
    by_cases hds : trimEnd ds = []
    · rw [if_pos hds] at ih ⊢
      by_cases hcs : trimEnd cs = []
      · rw [trimEnd_cons_of_eq_nil (ih.trans hcs), trimEnd_cons_of_eq_nil hcs]
      · rw [trimEnd_cons_of_ne_nil (ih ▸ hcs), trimEnd_cons_of_ne_nil hcs, ih]
    · rw [if_neg hds] at ih ⊢
      rw [trimEnd_cons_of_ne_nil (by simp [ih, hds]), ih]
      rfl

/-- What has been removed at the back are blanks. -/
theorem exists_trimEnd_append (cs : List Char) :
    ∃ back, back.all isBlank = true ∧ trimEnd cs ++ back = cs := by
  induction cs with
  | nil => exact ⟨[], rfl, rfl⟩
  | cons c cs ih =>
    obtain ⟨back, hback, hcs⟩ := ih
    by_cases hnil : trimEnd cs = []
    · rw [trimEnd_cons_of_eq_nil hnil]
      have hcs := trimEnd_eq_nil_iff.mp hnil
      split
      · exact ⟨c :: cs, by simp_all, rfl⟩
      · exact ⟨cs, hcs, rfl⟩
    · rw [trimEnd_cons_of_ne_nil hnil]
      exact ⟨back, hback, by rw [List.cons_append, hcs]⟩

theorem isPrefix_trimEnd (cs : List Char) : trimEnd cs <+: cs :=
  have ⟨back, _, hcs⟩ := exists_trimEnd_append cs
  ⟨back, hcs⟩

theorem trimStart_append_of_blank {front : List Char} (h : front.all isBlank = true)
    (cs : List Char) : trimStart (front ++ cs) = trimStart cs :=
  List.dropWhile_append_of_pos (List.all_eq_true.mp h)

theorem isInfix_trimChars (cs : List Char) : trimChars cs <:+: cs :=
  (isPrefix_trimEnd _).isInfix.trans (List.dropWhile_suffix isBlank).isInfix

/-- Blanks before a text are gone once it is trimmed. -/
theorem trimChars_blanks_append {front : List Char} (h : front.all isBlank = true)
    (cs : List Char) : trimChars (front ++ cs) = trimChars cs := by
  rw [trimChars, trimStart_append_of_blank h, trimChars]

/-- Blanks behind a text are gone once it is trimmed. -/
theorem trimChars_append_blanks {back : List Char} (h : back.all isBlank = true)
    (cs : List Char) : trimChars (cs ++ back) = trimChars cs := by
  have hend : trimEnd back = [] := trimEnd_eq_nil_iff.mpr h
  rw [trimChars, trimStart, List.dropWhile_append, trimChars, trimStart]
  split
  · -- nothing but blanks
    rename_i hcs
    have hstart : back.dropWhile isBlank = [] := by
      simpa [trimStart] using trimStart_append_of_blank h []
    rw [hstart, List.isEmpty_iff.mp hcs]
  · rw [trimEnd_append, if_pos hend]

/-- A beginning that was trimmed before makes no difference to trimming. -/
theorem trimChars_trimStart (cs : List Char) : trimChars (trimStart cs) = trimChars cs := by
  have hfront : (cs.takeWhile isBlank).all isBlank = true := List.all_takeWhile
  have hcs : cs.takeWhile isBlank ++ trimStart cs = cs := List.takeWhile_append_dropWhile
  rw [← trimChars_blanks_append hfront, hcs]

theorem trimChars_trimEnd (cs : List Char) : trimChars (trimEnd cs) = trimChars cs := by
  obtain ⟨back, hback, hcs⟩ := exists_trimEnd_append cs
  rw [← trimChars_append_blanks hback, hcs]

/-- Around a text that has no blanks at its ends, only the outer ends are trimmed. -/
theorem trimChars_append_append (htoken : Trimmed token) (hne : token ≠ []) :
    trimChars (before ++ token ++ after) = trimStart before ++ token ++ trimEnd after := by
  obtain ⟨c, rest, rfl⟩ := List.exists_cons_of_ne_nil hne
  have hc : isBlank c = false := htoken.1 c rfl
  have hstart : trimStart (before ++ (c :: rest ++ after)) =
      trimStart before ++ (c :: rest ++ after) := by
    rw [trimStart, List.dropWhile_append, List.cons_append,
      List.dropWhile_cons_of_neg (by simp [hc])]
    split
    · rename_i hbefore
      rw [trimStart, List.isEmpty_iff.mp hbefore, List.nil_append]
    · rfl
  have hend : trimEnd (c :: rest ++ after) = c :: rest ++ trimEnd after := by
    rw [trimEnd_append]
    split
    · rename_i hafter
      rw [hafter, List.append_nil, trimEnd_eq_self htoken.2]
    · rfl
  rw [List.append_assoc, trimChars, hstart, trimEnd_append, hend, if_neg (by simp),
    List.append_assoc]

/-! ### Trimmed texts -/

theorem toList_trim (s : String) : (trim s).toList = trimChars s.toList := String.toList_ofList

/-- Trimming a text twice is trimming it once. -/
theorem trim_trim (s : String) : trim (trim s) = trim s := by
  rw [← String.toList_inj, toList_trim, toList_trim, trimChars_of_trimmed (trimmed_trimChars _)]

/-- A text is blank if it is blank once it is trimmed. -/
theorem isBlankText_trim (s : String) : isBlankText (trim s) = isBlankText s := by
  have hiff (t : String) : isBlankText t = true ↔ trimChars t.toList = [] :=
    trimChars_eq_nil_iff.symm
  rw [Bool.eq_iff_iff, hiff, hiff, toList_trim, trimChars_of_trimmed (trimmed_trimChars _)]

end Storyline.Text
