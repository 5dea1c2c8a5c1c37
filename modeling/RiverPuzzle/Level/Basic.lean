import RiverPuzzle.Board.TileMap

/-!
# Levels

A puzzle: its number, the tiles of the board, and the cells where salmon start,
one salmon for each start in the order of the list.
-/

namespace RiverPuzzle

/-- One puzzle. -/
structure Level where
  number : Int
  tiles : TileMap
  starts : List Cell
deriving DecidableEq

namespace Level

/-- The tile of a cell. -/
def read (level : Level) (cell : Cell) : Except UnknownTile Tile :=
  level.tiles.read cell

/-- The level with one cell made of another tile. -/
def setTile (level : Level) (cell : Cell) (tile : Tile) : Level :=
  { level with tiles := level.tiles.set cell tile }

/-- The level with a drawn board. -/
def ofDrawing (number : Int) (drawing : Drawing) (starts : List Cell) :
    Except WrongShape Level :=
  (TileMap.ofDrawing drawing).map fun tiles => ⟨number, tiles, starts⟩

end Level

end RiverPuzzle
