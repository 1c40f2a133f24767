import Storyline.Duration

/-!
# Timing of a dialogue

How long an end node stays on screen before the dialogue closes itself: for its authored time, or
for the configured default where it has none that makes sense, or for three seconds where the
default makes no sense either.
-/

namespace Storyline

/-- The timing of a dialogue. -/
structure Settings where
  /-- The seconds for which an end node stays on screen by default. -/
  defaultDisplaySeconds : Binary32 := Binary.ofDecimal false 3 0
  deriving DecidableEq

/-- Authored seconds as a duration, if there are any and they make sense. -/
def displayDuration? (seconds : Option Binary32) : Option Duration :=
  seconds.bind Duration.ofSeconds?

/-- The default time of an end node. -/
def Settings.defaultDisplay (s : Settings) : Duration :=
  (displayDuration? (some s.defaultDisplaySeconds)).getD (Duration.ofNanos (3 * Duration.perSecond))

end Storyline
