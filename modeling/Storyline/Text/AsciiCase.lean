/-!
# Equality up to the case of ASCII letters

Words of the small languages (`true`, command types) and stored texts are compared without regard
to the case of the letters A to Z. Letters outside ASCII have to agree exactly.
-/

namespace Storyline.Text

/-- The texts with every ASCII capital replaced by its small letter. -/
def asciiFold (s : String) : List Char := s.toList.map Char.toLower

/-- Whether two texts agree up to the case of ASCII letters. -/
def sameText (s t : String) : Bool := asciiFold s == asciiFold t

@[simp] theorem sameText_iff {s t : String} : sameText s t = true ↔ asciiFold s = asciiFold t := by
  simp [sameText]

theorem sameText_refl (s : String) : sameText s s = true := by simp

end Storyline.Text
