/-! Elapsed seconds and the slower periods that they close. -/

namespace WildlifeWarning

/-- Which periods a second closed. -/
structure Ticks where
  minute : Bool := false
  hour : Bool := false
  day : Bool := false
  deriving DecidableEq

structure Clock where
  seconds : Nat := 0
  deriving DecidableEq

namespace Clock

def ticks (c : Clock) : Ticks :=
  ⟨c.seconds % 60 == 0, c.seconds % 3600 == 0, c.seconds % 86400 == 0⟩

def advance (c : Clock) : Clock := ⟨c.seconds + 1⟩

end Clock

end WildlifeWarning
