/-
# FusionSensors.Clock -- a clock that is set by hand

Operations take the reading of a clock as an argument, so any clock will do.
Replays drive one by hand.
-/
namespace FusionSensors

set_option autoImplicit false

/-- A clock that stands at a reading, in nanoseconds. -/
structure Clock where
  now : Int := 0
  deriving DecidableEq, Repr

namespace Clock

def set (_ : Clock) (reading : Int) : Clock := ⟨reading⟩

/-- Moves the clock on. -/
def advance (clock : Clock) (delta : Int) : Clock := ⟨clock.now + delta⟩

end Clock

end FusionSensors
