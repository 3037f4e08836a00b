namespace ItemModels

/-!
The clock of a world.
-/

/-- The time of day, which commands may set, and the ticks for which the world has existed. -/
structure Clock where
  timeOfDay : Int64
  totalTicks : Int64
deriving DecidableEq

namespace Clock

def ticksPerDay : Int64 := 24000

/-- The number of the day, counted from one.  Division drops the fraction, so times before
the start of the world belong to day one as far as a day back. -/
def day (clock : Clock) : Int64 :=
  clock.totalTicks / ticksPerDay + 1

def onOrAfterDay (clock : Option Clock) (threshold : Int64) : Bool :=
  match clock with
  | some clock => decide (threshold <= clock.day)
  | none => false

def onOrAfterTime (clock : Option Clock) (threshold : Int64) : Bool :=
  match clock with
  | some clock => decide (threshold <= clock.timeOfDay)
  | none => false

end Clock
end ItemModels
