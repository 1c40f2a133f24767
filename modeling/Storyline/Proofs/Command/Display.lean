import Storyline.Command.Basic
import Storyline.Proofs.Text.Digits
import Storyline.Proofs.Text.Splitting

/-!
# Commands read back

A command that was read carries a name without blanks around it, and the name of a variable that
it adjusts contains no plus sign (`Command.Named`). This is what lets its text be read back: the
text is split at its first colon, which comes right behind the type, and an adjustment is split at
the sign of its amount, whatever hyphens and inner blanks the name has.

The one amount that is not read back is the least one of 32 bits. It is read from behind a plus
sign, but shown behind the minus sign alone, where the amount is read without its sign and is then
too large. `Command.parse_display` says so.
-/

namespace Storyline

namespace Command

open Text

/-! ### The parts of a command -/

/-- The type of a command. -/
def kind : Command → CommandKind
  | giveItem _ => .item
  | setFlag _ => .flag
  | clearFlag _ => .unflag
  | adjustVar _ _ => .var
  | recordEnding _ => .ending

/-- The name that a command carries: of an item, of a variable, or of an ending. -/
def name : Command → String
  | giveItem id => id
  | setFlag name => name
  | clearFlag name => name
  | adjustVar key _ => key
  | recordEnding label => label

/-- What stands behind the colon in the text of a command. -/
def parameter : Command → List Char
  | adjustVar key delta => key.toList ++ (Numeral.signed delta.toInt).toList
  | c => c.name.toList

/-- The text of a command is its type, a colon and its parameter. -/
theorem toList_display (c : Command) :
    c.display.toList = c.kind.word.toList ++ ':' :: c.parameter := by
  cases c <;> simp [display, kind, parameter, name, CommandKind.word]

/-- The name in a command that was read: it is not empty and has no blanks around it, and if it is
that of a variable to adjust, it contains no plus sign. -/
structure Named (c : Command) : Prop where
  trimmed : Trimmed c.name.toList
  ne_empty : c.name ≠ ""
  no_plus : c.kind = .var → '+' ∉ c.name.toList

/-- The name of an adjustment contains no plus sign: the first one ends it. -/
theorem plus_not_mem_of_splitAdjustment? {param key : List Char} {delta : Int32}
    (h : splitAdjustment? param = some (key, delta)) : '+' ∉ key := by
  rw [splitAdjustment?] at h
  split at h
  · rename_i before after hsplit
    obtain ⟨amount, -, hparts⟩ := Option.map_eq_some_iff.mp h
    rw [← (Prod.mk.inj hparts).1]
    exact (splitAtFirst?_eq_some_iff.mp hsplit).2
  · rename_i hplus
    split at h
    · rename_i before after hsplit
      obtain ⟨amount, -, hparts⟩ := Option.map_eq_some_iff.mp h
      rw [splitAtFirst?_eq_none_iff, (splitAtLast?_eq_some_iff.mp hsplit).1] at hplus
      rw [← (Prod.mk.inj hparts).1]
      exact fun hkey ↦ hplus (List.mem_append_left _ hkey)
    · cases h

/-- An adjustment that could be read has a name. -/
theorem named_of_adjustment {param : List Char} {c : Command} (h : adjustment param = .ok c) :
    c.Named := by
  rw [adjustment] at h
  split at h
  · rename_i key delta hsplit
    dsimp only at h
    split at h
    · cases h
    · rename_i hkey
      cases h
      constructor
      · rw [name, String.toList_ofList]
        exact trimmed_trimChars key
      · simpa [name] using hkey
      · intro _ hplus
        rw [name, String.toList_ofList] at hplus
        exact plus_not_mem_of_splitAdjustment? hsplit (mem_of_mem_trimChars hplus)
  · cases h

theorem named_of_ofKind {kind : CommandKind} {param : List Char} {c : Command}
    (hparam : Trimmed param) (h : ofKind kind param = .ok c) : c.Named := by
  unfold ofKind at h
  split at h
  · cases h
  · rename_i hne
    have htrimmed : Trimmed (String.ofList param).toList := by rwa [String.toList_ofList]
    have hnonempty : String.ofList param ≠ "" := by simpa using hne
    cases kind with
    | item | flag | unflag | ending =>
      cases h
      exact ⟨htrimmed, hnonempty, fun hvar ↦ by cases hvar⟩
    | var => exact named_of_adjustment h

/-- Every command that could be read has a name, with no blanks around it. -/
theorem named_of_parse {raw : String} {c : Command} (h : parse raw = .ok c) : c.Named := by
  rw [parse] at h
  dsimp only at h
  split at h
  · cases h
  · split at h
    · cases h
    · exact named_of_ofKind (trimmed_trimChars _) h

/-! ### Reading a text of a command -/

/-- The word of each type is read as that type, and there is no colon in it. -/
theorem word_spec (kind : CommandKind) :
    trimChars (kind.word.toList ++ [':']) = kind.word.toList ++ [':'] ∧
      trimChars kind.word.toList = kind.word.toList ∧ ':' ∉ kind.word.toList ∧
      CommandKind.ofWord? (String.ofList kind.word.toList) = some kind := by
  cases kind <;> decide +kernel

/-- Behind a type and a colon, the parameter is read. -/
theorem parse_written {raw : String} {kind : CommandKind} {param : List Char}
    (hraw : raw.toList = kind.word.toList ++ ':' :: param) (hparam : Trimmed param) :
    parse raw = ofKind kind param := by
  obtain ⟨hlead, hword, hcolon, hkind⟩ := word_spec kind
  have hlead' : Trimmed (kind.word.toList ++ [':']) := hlead ▸ trimmed_trimChars _
  have htext : trimChars raw.toList = kind.word.toList ++ ':' :: param := by
    rw [hraw, List.append_cons]
    exact trimChars_of_trimmed (hlead'.append hparam)
  rw [parse, htext, splitAtFirst?_eq_some_iff.mpr ⟨rfl, hcolon⟩]
  dsimp only
  rw [hword, hkind, trimChars_of_trimmed hparam]

/-! ### Amounts behind names -/

variable {key : List Char}

theorem trimmed_toDigits (n : Nat) : Trimmed (Nat.toDigits 10 n) :=
  trimmed_of_forall fun _ hc ↦ isBlank_of_isDigit (isDigit_of_mem_toDigits hc)

/-- The size of a negative amount, read without its sign and then turned round: that of the least
amount is one too large. -/
theorem int32?_natAbs_bind_negate? {delta : Int32} (hneg : delta.toInt < 0) :
    (Numeral.int32? delta.toInt.natAbs).bind negate? =
      if delta = Int32.minValue then none else some delta := by
  by_cases hleast : delta = Int32.minValue
  · rw [if_pos hleast, hleast]
    rfl
  · have hlower : Int32.minValue.toInt ≤ delta.toInt := delta.minValue_le_toInt
    have hne : delta.toInt ≠ Int32.minValue.toInt := fun heq ↦ hleast (Int32.toInt_inj.mp heq)
    have hmin : Int32.minValue.toInt = -2147483648 := rfl
    obtain ⟨n, hn⟩ : ∃ n : Int32, n.toInt = delta.toInt.natAbs :=
      ⟨.ofInt delta.toInt.natAbs, Int32.toInt_ofInt_of_le (by omega) (by omega)⟩
    have hnegate : negate? n = some delta := Numeral.int32?_eq_some_iff.mpr (by omega)
    rw [if_neg hleast, Numeral.int32?_eq_some_iff.mpr hn, Option.bind_some, hnegate]

/-- Every amount but the least one is read back behind a name without a plus sign. -/
theorem splitAdjustment?_signed (hkey : '+' ∉ key) (delta : Int32) :
    splitAdjustment? (key ++ (Numeral.signed delta.toInt).toList) =
      if delta = Int32.minValue then none else some (key, delta) := by
  let size := delta.toInt.natAbs
  have hread : Numeral.readInt32? (trimChars (Nat.toDigits 10 size)) = Numeral.int32? size := by
    rw [trimChars_of_trimmed (trimmed_toDigits _), Numeral.readInt32?_toDigits]
  have hdigits {c : Char} (hc : c.isDigit = false) : c ∉ Nat.toDigits 10 size := fun h ↦
    isDigit_ne (isDigit_of_mem_toDigits h) hc rfl
  rw [Numeral.toList_signed, splitAdjustment?]
  by_cases hneg : delta.toInt < 0
  · have hfirst : splitAtFirst? ['+'] (key ++ '-' :: Nat.toDigits 10 size) = none := by
      rw [splitAtFirst?_eq_none_iff, List.mem_append, List.mem_cons]
      simp [hkey, hdigits]
    rw [if_pos hneg, hfirst, splitAtLast?_eq_some_iff.mpr ⟨rfl, hdigits rfl⟩]
    dsimp only
    rw [hread, int32?_natAbs_bind_negate? hneg]
    split <;> rfl
  · have hsize : Numeral.int32? size = some delta := Numeral.int32?_eq_some_iff.mpr (by omega)
    have hleast : delta ≠ Int32.minValue := by
      rintro rfl
      exact hneg (by decide)
    rw [if_neg hneg, splitAtFirst?_eq_some_iff.mpr ⟨rfl, hkey⟩]
    dsimp only
    rw [hread, hsize, if_neg hleast]
    rfl

/-! ### Commands read back -/

/-- The parameter of a command with a name has no blanks around it. -/
theorem Named.trimmed_parameter {c : Command} (h : c.Named) : Trimmed c.parameter := by
  cases c with
  | adjustVar key delta =>
    have hsign (i : Int) : Trimmed [if i < 0 then '-' else '+'] := by
      split
      · exact trimmed_singleton rfl
      · exact trimmed_singleton rfl
    rw [parameter, Numeral.toList_signed, ← List.singleton_append]
    exact h.trimmed.append ((hsign _).append (trimmed_toDigits _))
  | _ => exact h.trimmed

/-- Reading the text of a command comes down to reading its parameter. -/
theorem Named.parse_display_eq {c : Command} (h : c.Named) :
    parse c.display = ofKind c.kind c.parameter :=
  parse_written c.toList_display h.trimmed_parameter

/-- What is behind the colon in the text of an adjustment, read again. -/
theorem Named.ofKind_adjustVar {key : String} {delta : Int32} (h : (adjustVar key delta).Named) :
    ofKind .var (parameter (adjustVar key delta)) =
      if delta = Int32.minValue then .error (.badAdjustment (key ++ Numeral.signed delta.toInt))
      else .ok (.adjustVar key delta) := by
  have hkey : key.toList ≠ [] := by simpa [name] using h.ne_empty
  have hsplit := splitAdjustment?_signed (h.no_plus rfl) delta
  have hparam : String.ofList (key.toList ++ (Numeral.signed delta.toInt).toList) =
      key ++ Numeral.signed delta.toInt := by
    rw [String.ofList_append, String.ofList_toList, String.ofList_toList]
  rw [name] at hsplit
  rw [parameter, ofKind, if_neg (by simp [hkey]), adjustment, hsplit, hparam]
  by_cases hleast : delta = Int32.minValue
  · rw [if_pos hleast, if_pos hleast]
  · have htrim : trimChars key.toList = key.toList := trimChars_of_trimmed h.trimmed
    rw [if_neg hleast, if_neg hleast]
    simp [htrim, hkey]

/-- A command that was read is read back from its text, unless it adds the least amount of 32 bits:
its text is then refused as no adjustment. -/
theorem parse_display {raw : String} {c : Command} (h : parse raw = .ok c) :
    ((∀ key, c ≠ .adjustVar key Int32.minValue) → parse c.display = .ok c) ∧
      ∀ key, c = .adjustVar key Int32.minValue →
        parse c.display = .error (.badAdjustment (key ++ "-2147483648")) := by
  have hnamed := named_of_parse h
  have hname : c.name.toList ≠ [] := by simpa using hnamed.ne_empty
  rw [hnamed.parse_display_eq]
  cases c with
  | adjustVar key delta =>
    rw [kind, hnamed.ofKind_adjustVar]
    constructor
    · intro hleast
      rw [if_neg fun heq ↦ hleast key (by rw [heq])]
    · intro key' heq
      obtain ⟨rfl, rfl⟩ := adjustVar.inj heq
      rfl
  | giveItem | setFlag | clearFlag | recordEnding =>
    refine ⟨fun _ ↦ ?_, fun key heq ↦ by cases heq⟩
    rw [name] at hname
    simp [kind, parameter, name, ofKind, hname]

/-- A name with an inner blank and hyphens, and an amount behind both signs. -/
theorem parse_display_seaSick :
    parse " Var: sea sick- +-7" = .ok (.adjustVar "sea sick-" (-7)) ∧
      parse (adjustVar "sea sick-" (-7)).display = .ok (.adjustVar "sea sick-" (-7)) := by
  have h : parse " Var: sea sick- +-7" = .ok (.adjustVar "sea sick-" (-7)) := by rfl
  exact ⟨h, (parse_display h).1 (by simp [Int32.minValue])⟩

/-- Not every command that was read is read back. -/
theorem not_parse_display_least :
    ¬∀ (raw : String) (c : Command), parse raw = .ok c → parse c.display = .ok c := by
  intro h
  have hread : parse "var:x+-2147483648" = .ok (.adjustVar "x" Int32.minValue) := by rfl
  have hrefused : parse (adjustVar "x" Int32.minValue).display =
      .error (.badAdjustment "x-2147483648") := by rfl
  rw [h _ _ hread] at hrefused
  cases hrefused

end Command

end Storyline
