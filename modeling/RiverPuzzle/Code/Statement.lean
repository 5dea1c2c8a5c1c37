import RiverPuzzle.Board.Cell
import RiverPuzzle.Board.Tile

/-!
# Statements

The tree of a program: moves, loops that never end by themselves, and blocks
guarded by what lies next to the salmon.
-/

namespace RiverPuzzle

/-- A look at the next cell in a direction, which holds when the cell is made of
the tile. -/
structure Probe where
  direction : Direction
  tile : Tile
deriving DecidableEq, Repr

/-- A statement.  A loop repeats its body for ever; a guarded block runs its
body once when the probe holds, and is skipped otherwise. -/
inductive Stmt
  | move (direction : Direction)
  | loop (body : List Stmt)
  | cond (probe : Probe) (body : List Stmt)

/-- What stands in front of a block. -/
inductive Header
  | loop
  | cond (probe : Probe)
deriving DecidableEq, Repr

/-- The statement made of a header and its block. -/
def Header.close (body : List Stmt) : Header → Stmt
  | .loop => .loop body
  | .cond probe => .cond probe body

end RiverPuzzle
