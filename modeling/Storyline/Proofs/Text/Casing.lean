import Storyline.Numeral
import Storyline.Proofs.Text.Splitting
import Storyline.Text.AsciiCase

/-!
# The case of ASCII letters

Nothing that a key or a condition depends on changes with the case of ASCII letters. The two letters
of a pair have the same properties, which is checked for the twenty-six pairs (`toLower_cases`):
neither is blank, both are cased, and both have one lower-case form. So a text in small letters is
trimmed where it was before, has the same lower-case form (also of a sigma, which depends on the
letters around it), and stands for the same key (`normalizeKey?_smallLetters`).

What has no letters in it stays what it is. An operator is found in the same places
(`infix_map_toLower_iff`), and a number is read as before (`Numeral.readInt32?_map_toLower`).
-/

namespace Storyline

namespace Text

/-! ### Characters -/

/-- What holds of each character and itself, and of each ASCII capital and its small letter, holds
of each character and what `Char.toLower` makes of it. -/
theorem toLower_cases {P : Char → Char → Prop} (same : ∀ c, P c c)
    (capital : ∀ n < 26, P (Char.ofNat (65 + n)) (Char.ofNat (97 + n))) (c : Char) :
    P c c.toLower := by
  by_cases h : 'A'.val ≤ c.val ∧ c.val ≤ 'Z'.val
  · have hlow : 65 ≤ c.toNat := h.1
    have hhigh : c.toNat ≤ 90 := h.2
    have hletters : ∀ n < 26, (Char.ofNat (65 + n)).toLower = Char.ofNat (97 + n) := by decide
    have hc : c = Char.ofNat (65 + (c.toNat - 65)) := by
      rw [Nat.add_sub_cancel' hlow, Char.ofNat_toNat]
    rw [hc, hletters _ (by omega)]
    exact capital _ (by omega)
  · have hc : c.toLower = c := dif_neg h
    rw [hc]
    exact same c

theorem isBlank_toLower (c : Char) : isBlank c.toLower = isBlank c :=
  toLower_cases (P := fun c d ↦ isBlank d = isBlank c) (fun _ ↦ rfl) (by decide) c

theorem isCased_toLower (c : Char) : isCased c.toLower = isCased c :=
  toLower_cases (P := fun c d ↦ isCased d = isCased c) (fun _ ↦ rfl) (by decide +kernel) c

theorem isCaseIgnorable_toLower (c : Char) : isCaseIgnorable c.toLower = isCaseIgnorable c :=
  toLower_cases (P := fun c d ↦ isCaseIgnorable d = isCaseIgnorable c) (fun _ ↦ rfl)
    (by decide +kernel) c

/-- A capital has the lower-case form that its small letter has. -/
theorem lowerChar_toLower (c : Char) : lowerChar c.toLower = lowerChar c :=
  toLower_cases (P := fun c d ↦ lowerChar d = lowerChar c) (fun _ ↦ rfl) (by decide +kernel) c

/-- Only ASCII letters change, and into ASCII letters. -/
theorem toLower_eq_iff {c d : Char} (hd : d.isAlpha = false) : c.toLower = d ↔ c = d := by
  have hletters : ∀ n < 26, (Char.ofNat (65 + n)).isAlpha = true ∧
      (Char.ofNat (97 + n)).isAlpha = true := by decide
  refine toLower_cases (P := fun c e ↦ (e = d ↔ c = d)) (fun _ ↦ Iff.rfl) (fun n hn ↦ ?_) c
  obtain ⟨hcapital, hsmall⟩ := hletters n hn
  grind

/-! ### Lists of characters -/

variable {token cs : List Char}

/-- A token without letters is told apart from the case of a text. -/
theorem map_toLower_eq_iff (h : ∀ c ∈ token, c.isAlpha = false) :
    token = cs.map Char.toLower ↔ token = cs := by
  induction token generalizing cs with
  | nil => simp [eq_comm (a := [])]
  | cons d token ih =>
    obtain ⟨hd, htoken⟩ := List.forall_mem_cons.mp h
    rcases cs with - | ⟨c, cs⟩
    · simp
    · rw [List.map_cons, List.cons.injEq, List.cons.injEq, ih htoken, eq_comm (a := d),
        toLower_eq_iff hd, eq_comm (a := d)]

/-- A token without letters stands in a text whatever the case of its letters. -/
theorem infix_map_toLower_iff (h : ∀ c ∈ token, c.isAlpha = false) :
    token <:+: cs.map Char.toLower ↔ token <:+: cs := by
  rw [List.infix_map_iff]
  constructor
  · rintro ⟨ds, hds, htoken⟩
    rwa [(map_toLower_eq_iff h).mp htoken]
  · intro hstands
    exact ⟨token, hstands, (map_toLower_eq_iff h).mpr rfl⟩

/-- Trimming does not look at the case of letters. -/
theorem trimEnd_map_toLower (cs : List Char) :
    trimEnd (cs.map Char.toLower) = (trimEnd cs).map Char.toLower := by
  induction cs with
  | nil => rfl
  | cons c cs ih =>
    rw [List.map_cons]
    by_cases hcs : trimEnd cs = []
    · rw [trimEnd_cons_of_eq_nil hcs, trimEnd_cons_of_eq_nil (by rw [ih, hcs]; rfl),
        isBlank_toLower]
      split <;> rfl
    · rw [trimEnd_cons_of_ne_nil hcs, trimEnd_cons_of_ne_nil (by simpa [ih] using hcs), ih]
      rfl

theorem trimChars_map_toLower (cs : List Char) :
    trimChars (cs.map Char.toLower) = (trimChars cs).map Char.toLower := by
  have hblank : isBlank ∘ Char.toLower = isBlank := funext isBlank_toLower
  rw [trimChars, trimStart, List.dropWhile_map, hblank, trimEnd_map_toLower]
  rfl

theorem reachesCased_map_toLower (cs : List Char) :
    reachesCased (cs.map Char.toLower) = reachesCased cs := by
  have hignorable : isCaseIgnorable ∘ Char.toLower = isCaseIgnorable :=
    funext isCaseIgnorable_toLower
  rw [reachesCased, reachesCased, List.dropWhile_map, hignorable]
  rcases cs.dropWhile isCaseIgnorable with - | ⟨c, ds⟩
  · rfl
  · exact isCased_toLower c

/-- Lowering a text does not look at the case of its ASCII letters. -/
theorem lowerFrom_map_toLower (before cs : List Char) :
    lowerFrom (before.map Char.toLower) (cs.map Char.toLower) = lowerFrom before cs := by
  induction cs generalizing before with
  | nil => rfl
  | cons c cs ih =>
    have hsigma : c.toLower = 'Σ' ↔ c = 'Σ' := toLower_eq_iff (by decide)
    have hrest := ih (c :: before)
    rw [List.map_cons] at hrest
    rw [List.map_cons, lowerFrom, lowerFrom, hrest, reachesCased_map_toLower,
      reachesCased_map_toLower, lowerChar_toLower]
    simp only [hsigma]

theorem lowerChars_map_toLower (cs : List Char) :
    lowerChars (cs.map Char.toLower) = lowerChars cs :=
  lowerFrom_map_toLower [] cs

/-! ### Texts -/

/-- A text in small ASCII letters. -/
def smallLetters (s : String) : String := String.ofList (asciiFold s)

theorem toList_smallLetters (s : String) : (smallLetters s).toList = s.toList.map Char.toLower :=
  String.toList_ofList

/-- A text is blank if it is blank in small letters. -/
theorem isBlankText_smallLetters (s : String) : isBlankText (smallLetters s) = isBlankText s := by
  have hblank : isBlank ∘ Char.toLower = isBlank := funext isBlank_toLower
  rw [isBlankText, toList_smallLetters, List.all_map, hblank, isBlankText]

theorem smallLetters_ofList (cs : List Char) :
    smallLetters (String.ofList cs) = String.ofList (cs.map Char.toLower) := by
  rw [smallLetters, asciiFold, String.toList_ofList]

/-- A text and its small letters fold alike. -/
theorem asciiFold_smallLetters (s : String) : asciiFold (smallLetters s) = asciiFold s := by
  have hidem (c : Char) : c.toLower.toLower = c.toLower :=
    toLower_cases (P := fun c d ↦ c.toLower = d → d.toLower = d) (fun _ h ↦ h) (by decide) c rfl
  rw [asciiFold, toList_smallLetters, List.map_map, asciiFold]
  exact congrArg (s.toList.map ·) (funext hidem)

/-- Texts have the same small letters if they are the same but for the case of ASCII letters. -/
theorem smallLetters_eq_iff {s t : String} :
    smallLetters s = smallLetters t ↔ sameText s t = true := by
  rw [smallLetters, smallLetters, String.ofList_inj, sameText_iff]

end Text

open Text

/-- A key is found by its small letters. -/
theorem normalizeKey?_smallLetters (key : String) :
    normalizeKey? (smallLetters key) = normalizeKey? key := by
  have hfold : foldName (smallLetters key) = foldName key := by
    rw [← String.toList_inj, toList_foldName, toList_foldName, toList_smallLetters,
      trimChars_map_toLower, lowerChars_map_toLower]
  rw [normalizeKey?, normalizeKey?, isBlankText_smallLetters, hfold]

namespace Numeral

theorem digitsFrom?_map_toLower (acc : Nat) (cs : List Char) :
    digitsFrom? acc (cs.map Char.toLower) = digitsFrom? acc cs := by
  have hdigit (c : Char) : c.toLower.isDigit = c.isDigit :=
    toLower_cases (P := fun c d ↦ d.isDigit = c.isDigit) (fun _ ↦ rfl) (by decide) c
  have hsame (c : Char) (hc : c.isDigit = true) : c.toLower = c :=
    toLower_cases (P := fun c d ↦ c.isDigit = true → d = c) (fun _ _ ↦ rfl) (by decide) c hc
  induction cs generalizing acc with
  | nil => rfl
  | cons c cs ih =>
    rw [List.map_cons, digitsFrom?, digitsFrom?, hdigit, ih]
    split
    · rename_i hc
      rw [hsame c hc]
    · rfl

theorem natural?_map_toLower (cs : List Char) : natural? (cs.map Char.toLower) = natural? cs := by
  rcases cs with - | ⟨c, cs⟩
  · rfl
  · exact digitsFrom?_map_toLower 0 (c :: cs)

/-- There are no letters in a number. -/
theorem readInt32?_map_toLower (cs : List Char) :
    readInt32? (cs.map Char.toLower) = readInt32? cs := by
  suffices h : integer? (cs.map Char.toLower) = integer? cs by rw [readInt32?, h, readInt32?]
  rcases cs with - | ⟨c, cs⟩
  · rfl
  · have hsign {d : Char} (hd : d.isAlpha = false) (hc : c ≠ d) (ds : List Char) :
        (c :: cs).map Char.toLower ≠ d :: ds := fun h ↦
      hc ((toLower_eq_iff hd).mp (List.cons.inj h).1)
    by_cases hplus : c = '+'
    · have hmap : ('+' :: cs).map Char.toLower = '+' :: cs.map Char.toLower := rfl
      rw [hplus, hmap, integer?, integer?, natural?_map_toLower]
    · by_cases hminus : c = '-'
      · have hmap : ('-' :: cs).map Char.toLower = '-' :: cs.map Char.toLower := rfl
        rw [hminus, hmap, integer?, integer?, natural?_map_toLower]
      · rw [integer?, integer?, natural?_map_toLower]
        · exact fun ds h ↦ hplus (List.cons.inj h).1
        · exact fun ds h ↦ hminus (List.cons.inj h).1
        · exact hsign (by decide) hplus
        · exact hsign (by decide) hminus

end Numeral

end Storyline
