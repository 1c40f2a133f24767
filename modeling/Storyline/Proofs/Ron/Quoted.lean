import Mathlib.Tactic.SplitIfs
import Storyline.Proofs.Text.Digits
import Storyline.Ron.Token
import Storyline.Text.Quoted

/-!
# Strings read back

Whatever characters a string has, the reader takes it back from between the quotes
(`Ron.string?_quoteBoth`). A character is written as it is, with a backslash before it or before
the letter that stands for it, or as its code point; for each of these forms the reader gives the
character and goes on behind it (`Ron.quotedFrom_escapeAnyQuote`). For this it does not matter
which characters are shown as they are, as long as quotes and backslashes are not.
-/

namespace Storyline.Ron

open Text

variable {quote : Char} {form : Quoting}

/-! ### Code points -/

/-- Reading the digits of a code point, of which there may be six. -/
theorem quotedFrom_toDigits (n : Nat) (cs : List Char) (h : (Nat.toDigits 16 n).length ≤ 6) :
    quotedFrom quote form (.codeDigits 0 0) (Nat.toDigits 16 n ++ cs) =
      quotedFrom quote form (.codeDigits (Nat.toDigits 16 n).length n) cs := by
  have hstep (count value d : Nat) (hcount : count < 6) (hd : d < 16) (cs : List Char) :
      quotedFrom quote form (.codeDigits count value) (Nat.digitChar d :: cs) =
        quotedFrom quote form (.codeDigits (count + 1) (value * 16 + d)) cs := by
    have hne : Nat.digitChar d ≠ '\x7d' := digitChar_ne hd rfl
    rw [quotedFrom, if_neg hne, if_pos hcount, hexDigit?_digitChar hd]
  revert h
  refine toDigits_induction (by decide : 1 < 16)
    (P := fun n ds ↦ ∀ cs, ds.length ≤ 6 → quotedFrom quote form (.codeDigits 0 0) (ds ++ cs) =
      quotedFrom quote form (.codeDigits ds.length n) cs)
    (fun d hd cs _ ↦ ?_) (fun n d ds hd ih cs hlength ↦ ?_) n cs
  · simpa using hstep 0 0 d (by decide) hd cs
  · rw [List.length_append, List.length_singleton] at hlength
    rw [List.append_assoc, ih _ (by omega), List.singleton_append, hstep _ _ _ (by omega) hd,
      List.length_append, List.length_singleton]

/-- A code point has at most six digits. -/
theorem length_toDigits_toNat (c : Char) : (Nat.toDigits 16 c.toNat).length ≤ 6 := by
  rw [Nat.length_toDigits_le_iff (by decide) (by decide)]
  have hvalid : c.toNat.isValidChar := c.valid
  unfold Nat.isValidChar at hvalid
  omega

theorem quotedFrom_codeEscape (hquote : quote ≠ '\\') (hform : form ≠ .byte) (c : Char)
    (cs : List Char) :
    quotedFrom quote form .plain (codeEscape c ++ cs) =
      (quotedFrom quote form .plain cs).map fun p ↦ (c :: p.1, p.2) := by
  have hscalar : scalar? c.toNat = some c := by
    have hvalid : c.toNat.isValidChar := c.valid
    rw [scalar?, if_pos hvalid, Char.ofNat_toNat]
  have hpos : (Nat.toDigits 16 c.toNat).length ≠ 0 := Nat.pos_iff_ne_zero.mp Nat.length_toDigits_pos
  have hopen (cs : List Char) : quotedFrom quote form .plain ('\\' :: 'u' :: '\x7b' :: cs) =
      quotedFrom quote form (.codeDigits 0 0) cs := by
    rw [quotedFrom, if_neg (Ne.symm hquote), if_pos rfl, quotedFrom, if_neg (by decide), if_pos rfl,
      if_neg hform, quotedFrom, if_pos rfl]
  have htext : codeEscape c ++ cs =
      '\\' :: 'u' :: '\x7b' :: (Nat.toDigits 16 c.toNat ++ '\x7d' :: cs) := by
    simp [codeEscape]
  rw [htext, hopen, quotedFrom_toDigits _ _ (length_toDigits_toNat c), quotedFrom, if_pos rfl,
    if_neg hpos, hscalar]

/-! ### Characters and strings -/

/-- Reading a backslash and the letter that stands for a character. -/
theorem quotedFrom_simpleEscape (hquote : quote ≠ '\\') {letter c : Char}
    (h : simpleEscape? letter = some c) (cs : List Char) :
    quotedFrom quote form .plain ('\\' :: letter :: cs) =
      (quotedFrom quote form .plain cs).map fun p ↦ (c :: p.1, p.2) := by
  have hx : letter ≠ 'x' := by
    rintro rfl
    cases h
  have hu : letter ≠ 'u' := by
    rintro rfl
    cases h
  rw [quotedFrom, if_neg (Ne.symm hquote), if_pos rfl, quotedFrom, if_neg hx, if_neg hu, h]

/-- A character is written with a backslash and a letter, as its code point, or as it is. -/
theorem escapeAnyQuote_cases (c : Char) :
    (∃ letter, escapeAnyQuote c = ['\\', letter] ∧ simpleEscape? letter = some c) ∨
      escapeAnyQuote c = codeEscape c ∨ escapeAnyQuote c = [c] ∧ c ≠ '\\' ∧ c ≠ '"' := by
  rw [escapeAnyQuote, escapeChar]
  split_ifs with hsingle hnull htab hreturn hline hmark hhidden
  · exact .inl ⟨c, rfl, by rw [hsingle]; rfl⟩
  · exact .inl ⟨'0', rfl, by rw [hnull]; rfl⟩
  · exact .inl ⟨'t', rfl, by rw [htab]; rfl⟩
  · exact .inl ⟨'r', rfl, by rw [hreturn]; rfl⟩
  · exact .inl ⟨'n', rfl, by rw [hline]; rfl⟩
  · refine .inl ⟨c, rfl, ?_⟩
    have hc : c = '\\' ∨ c = '"' := by simpa using hmark
    rcases hc with rfl | rfl <;> rfl
  · exact .inr (.inl rfl)
  · have hc : c ≠ '\\' ∧ c ≠ '"' := by simpa using hmark
    exact .inr (.inr ⟨rfl, hc⟩)

/-- Whatever form a character is written in, it is read back, and what follows it is read on. -/
theorem quotedFrom_escapeAnyQuote (c : Char) (cs : List Char) :
    quotedFrom '"' .text .plain (escapeAnyQuote c ++ cs) =
      (quotedFrom '"' .text .plain cs).map fun p ↦ (c :: p.1, p.2) := by
  have hquote : '"' ≠ '\\' := by decide
  rcases escapeAnyQuote_cases c with ⟨letter, htext, hletter⟩ | htext | ⟨htext, hmark, hclose⟩
  · rw [htext]
    exact quotedFrom_simpleEscape hquote hletter cs
  · rw [htext]
    exact quotedFrom_codeEscape hquote (by decide) c cs
  · rw [htext, List.singleton_append, quotedFrom, if_neg hclose, if_neg hmark]
    rfl

theorem quotedFrom_flatMap_escapeAnyQuote (cs rest : List Char) :
    quotedFrom '"' .text .plain (cs.flatMap escapeAnyQuote ++ '"' :: rest) = some (cs, rest) := by
  induction cs with
  | nil => rfl
  | cons c cs ih =>
    rw [List.flatMap_cons, List.append_assoc, quotedFrom_escapeAnyQuote, ih]
    rfl

/-- A quoted string is read back, whatever its characters are and whatever follows it. -/
theorem string?_quoteBoth (s : String) (rest : List Char) :
    string? ((quoteBoth s).toList ++ rest) = some (s, rest) := by
  have htext : (quoteBoth s).toList ++ rest =
      '"' :: (s.toList.flatMap escapeAnyQuote ++ '"' :: rest) := by
    simp [quoteBoth]
  rw [htext, string?, quotedFrom_flatMap_escapeAnyQuote]
  simp

end Storyline.Ron
