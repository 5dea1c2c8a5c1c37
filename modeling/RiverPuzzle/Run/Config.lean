/-!
# How a run is set up

A program may loop for ever, so every run has a cap on its ticks, of at least
one.
-/

namespace RiverPuzzle

/-- The cap on the ticks, and whether the salmon are traced. -/
structure RunConfig where
  maxTicks : Nat
  traced : Bool
  one_le : 1 ≤ maxTicks

/-- A cap below one. -/
structure CapTooLow where
deriving DecidableEq, Repr

def CapTooLow.message (_ : CapTooLow) : String :=
  "max_ticks must be >= 1"

namespace RunConfig

/-- The cap of a run for which none is given. -/
def defaultMaxTicks : Nat := 500

/-- The setting of a run for which nothing is given. -/
def standard : RunConfig :=
  ⟨defaultMaxTicks, true, by decide⟩

/-- A setting with the given cap. -/
def ofCap (maxTicks : Int) (traced : Bool) : Except CapTooLow RunConfig :=
  if h : 1 ≤ maxTicks then .ok ⟨maxTicks.toNat, traced, by omega⟩ else .error {}

end RunConfig

end RiverPuzzle
