import Plateau.Number.Binary64

namespace Plateau.Telemetry

/-- A clock shows what it likes, in seconds, each time it is read. -/
structure Clock where
  reading : Nat → Float
  count : Nat := 0

namespace Clock

def seconds (c : Clock) : Float :=
  c.reading c.count

def advance (c : Clock) : Clock :=
  { c with count := c.count + 1 }

def every (microseconds : Nat) : Clock :=
  { reading := fun k => decimalFloat (k * microseconds) (-6) }

end Clock

end Plateau.Telemetry
