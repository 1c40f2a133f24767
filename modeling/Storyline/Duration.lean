import Storyline.Binary.Rounding
import Storyline.Numeral

/-!
# Spans of time

A duration is a whole number of nanoseconds, up to what 64 bits of seconds and a fraction below
one second can express. Addition stops at that limit, and subtraction at zero. Authored seconds
are binary numbers of 32 bits; `Duration.ofSeconds?` rounds them to the nearest nanosecond, and
refuses what is negative, not finite or beyond the limit.
-/

namespace Storyline

/-- The nanoseconds of a second. -/
def Duration.perSecond : Nat := 1000000000

/-- The nanoseconds of `2 ^ 64` seconds. -/
def Duration.limit : Nat := 18446744073709551616 * perSecond

/-- A span of time. -/
structure Duration where
  /-- Its length in nanoseconds. -/
  nanos : Nat
  /-- It is below `2 ^ 64` seconds. -/
  nanos_lt : nanos < Duration.limit
  deriving DecidableEq

namespace Duration

/-- No time at all. -/
def zero : Duration := ⟨0, by decide⟩

instance : Inhabited Duration := ⟨zero⟩

/-- The longest duration. -/
def longest : Duration := ⟨limit - 1, by decide⟩

/-- The duration of so many nanoseconds, or the longest one. -/
def ofNanos (n : Nat) : Duration :=
  if h : n < limit then ⟨n, h⟩ else longest

instance : Add Duration := ⟨fun a b ↦ ofNanos (a.nanos + b.nanos)⟩

instance : Sub Duration :=
  ⟨fun a b ↦ ⟨a.nanos - b.nanos, Nat.lt_of_le_of_lt (Nat.sub_le _ _) a.nanos_lt⟩⟩

instance : LE Duration := ⟨fun a b ↦ a.nanos ≤ b.nanos⟩

instance : LT Duration := ⟨fun a b ↦ a.nanos < b.nanos⟩

instance (a b : Duration) : Decidable (a ≤ b) := inferInstanceAs (Decidable (a.nanos ≤ b.nanos))

instance (a b : Duration) : Decidable (a < b) := inferInstanceAs (Decidable (a.nanos < b.nanos))

theorem nanos_add (a b : Duration) :
    (a + b).nanos = min (a.nanos + b.nanos) (limit - 1) := by
  show (ofNanos (a.nanos + b.nanos)).nanos = _
  unfold ofNanos
  split
  · dsimp only
    omega
  · show limit - 1 = _
    omega

/-- A time has come after a while exactly if no more than that was left of it. -/
theorem not_add_lt_iff {now elapsed due : Duration} :
    ¬ now + elapsed < due ↔ due - now ≤ elapsed := by
  show ¬ (now + elapsed).nanos < due.nanos ↔ due.nanos - now.nanos ≤ elapsed.nanos
  have hdue := due.nanos_lt
  rw [nanos_add]
  omega

/-- The whole seconds. -/
def seconds (d : Duration) : Nat := d.nanos / perSecond

/-- The nanoseconds beyond the whole seconds. -/
def subsecond (d : Duration) : Nat := d.nanos % perSecond

/-- Seconds as a duration, if they are neither negative nor `2 ^ 64` and more. A negative zero is
zero. -/
def ofSeconds? (x : Binary32) : Option Duration :=
  match x.value with
  | .finite negative m e =>
    if negative && m != 0 then none
    else
      let (n, d) := scaleRatio (m * perSecond) 1 (-e)
      let nanos := roundHalfEven n d
      if h : nanos < limit then some ⟨nanos, h⟩ else none
  | _ => none

/-- A whole number and a fraction of so many places, zeros at its end left out. -/
def fractionText (whole fraction places : Nat) : String :=
  let digits := (Numeral.padded places fraction).reverse.dropWhile (· == '0') |>.reverse
  Numeral.decimal whole ++ (if digits.isEmpty then "" else "." ++ String.ofList digits)

/-- A duration in the largest unit that it fills at least once: seconds, milliseconds,
microseconds or nanoseconds. -/
def text (d : Duration) : String :=
  if 0 < d.seconds then fractionText d.seconds d.subsecond 9 ++ "s"
  else if 1000000 ≤ d.nanos then fractionText (d.nanos / 1000000) (d.nanos % 1000000) 6 ++ "ms"
  else if 1000 ≤ d.nanos then fractionText (d.nanos / 1000) (d.nanos % 1000) 3 ++ "µs"
  else Numeral.decimal d.nanos ++ "ns"

end Duration

end Storyline
