import RiverPuzzle.Code.Instruction
import RiverPuzzle.Level.Basic

/-!
# The river

A board with salmon in it that all follow one program, each from an address of
its own.  A river starts with one salmon on every start of a level, all at the
first instruction.
-/

namespace RiverPuzzle

/-- A salmon: its number, where it is, and the address of its next instruction. -/
structure Salmon where
  id : Int
  cell : Cell
  pc : Int
deriving DecidableEq, Repr

/-- The tiles, the salmon still under way in their order, and the program. -/
structure River where
  tiles : TileMap
  salmon : List Salmon
  program : Program

/-- Why a program cannot be put into a river. -/
inductive LoadFault
  | noInstruction
  | strayTarget
deriving DecidableEq, Repr

def LoadFault.message : LoadFault → String
  | .noInstruction => "program must contain at least one instruction"
  | .strayTarget => "program jumps outside its own addresses"

/-- Every jump of the program leads to one of its addresses, or just behind the
last one. -/
def Program.Closed (program : Program) : Prop :=
  ∀ target ∈ program.targets, 0 ≤ target ∧ target ≤ program.size

instance (program : Program) : Decidable program.Closed :=
  inferInstanceAs (Decidable (∀ target ∈ program.targets, 0 ≤ target ∧ target ≤ program.size))

namespace River

/-- A fresh salmon on each start, numbered from zero. -/
def hatch (starts : List Cell) : List Salmon :=
  starts.mapIdx fun id cell => ⟨id, cell, 0⟩

/-- A fresh river of a level. -/
def fresh (level : Level) (program : Program) : River :=
  ⟨level.tiles, hatch level.starts, program⟩

/-- A fresh river of a level, if the program can run in it. -/
def load (level : Level) (program : Program) : Except LoadFault River :=
  if program.isEmpty then .error .noInstruction
  else if program.Closed then .ok (fresh level program)
  else .error .strayTarget

/-- No salmon is left. -/
def isComplete (river : River) : Bool :=
  river.salmon.isEmpty

end River

end RiverPuzzle
