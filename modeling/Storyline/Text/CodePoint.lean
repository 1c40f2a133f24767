/-!
# Tables over code points

Unicode properties are tables over code points. A property is a list of *spans* (intervals of code
points), and a case mapping a list of *runs* (code points at equal distances that move by one
common shift). Both are data of the standard, version 17.0; the modules that hold them say which
property they list.
-/

namespace Storyline.Text

/-- An interval of code points, both ends included. -/
abbrev CodeSpan := Nat × Nat

/-- Whether a code point lies in one of the spans. -/
def inSpans (spans : List CodeSpan) (n : Nat) : Bool :=
  spans.any fun s ↦ s.1 ≤ n && n ≤ s.2

/-- The code points `first, first + step, …, last`, all of which move by the same `shift`. -/
structure CaseRun where
  /-- The first code point of the run. -/
  first : Nat
  /-- The last code point of the run. -/
  last : Nat
  /-- The distance between neighbours. -/
  step : Nat
  /-- What the mapping adds to each of them. -/
  shift : Int

/-- Whether a code point belongs to the run. -/
def CaseRun.covers (r : CaseRun) (n : Nat) : Bool :=
  r.first ≤ n && n ≤ r.last && (n - r.first) % r.step == 0

/-- The image of a code point under the first run that covers it; a code point that no run covers
stays where it is. -/
def shiftBy (runs : List CaseRun) (n : Nat) : Nat :=
  match runs.find? (·.covers n) with
  | some r => (n + r.shift).toNat
  | none => n

end Storyline.Text
