import RiverPuzzle.Board.Cell
import RiverPuzzle.Board.Tile

/-!
# Tile maps

The tiles of a whole board, kept as one byte for each cell.  Any byte may lie in
a map; only reading a cell asks whether its byte stands for a tile.
-/

namespace RiverPuzzle

/-- One byte for each cell, row by row. -/
structure TileMap where
  rows : Vector (Vector UInt8 boardWidth) boardHeight
deriving DecidableEq

namespace TileMap

/-- The map that a rule gives. -/
def ofFn (rule : Cell → UInt8) : TileMap :=
  ⟨Vector.ofFn fun y => Vector.ofFn fun x => rule ⟨x, y⟩⟩

/-- The map of open water. -/
def allEmpty : TileMap :=
  ofFn fun _ => Tile.empty.code

/-- The byte of a cell. -/
def code (tiles : TileMap) (cell : Cell) : UInt8 :=
  tiles.rows[cell.y][cell.x]

/-- The tile of a cell. -/
def read (tiles : TileMap) (cell : Cell) : Except UnknownTile Tile :=
  match Tile.ofCode? (tiles.code cell) with
  | some tile => .ok tile
  | none => .error ⟨tiles.code cell⟩

/-- The map with one cell made of another tile. -/
def set (tiles : TileMap) (cell : Cell) (tile : Tile) : TileMap :=
  ⟨tiles.rows.set cell.y (tiles.rows[cell.y].set cell.x tile.code)⟩

/-- Every byte of the map stands for a tile. -/
def Proper (tiles : TileMap) : Prop :=
  ∀ cell, ∃ tile, tiles.read cell = .ok tile

theorem code_ofFn (rule : Cell → UInt8) (cell : Cell) : (ofFn rule).code cell = rule cell := by
  simp [ofFn, code]

theorem ext_code {left right : TileMap} (h : ∀ cell, left.code cell = right.code cell) :
    left = right := by
  cases left
  cases right
  congr
  apply Vector.ext
  intro y hy
  apply Vector.ext
  intro x hx
  exact h ⟨⟨x, hx⟩, ⟨y, hy⟩⟩

theorem code_set (tiles : TileMap) (cell other : Cell) (tile : Tile) :
    (tiles.set cell tile).code other = if cell = other then tile.code else tiles.code other := by
  obtain ⟨x, y⟩ := cell
  obtain ⟨x', y'⟩ := other
  by_cases hy : y = y'
  · subst hy
    by_cases hx : x = x'
    · simp [set, code, hx]
    · have hne : x.val ≠ x'.val := fun h => hx (Fin.ext h)
      simp [set, code, hx, hne]
  · have hne : y.val ≠ y'.val := fun h => hy (Fin.ext h)
    simp [set, code, hy, hne]

end TileMap

/-- The bytes of a board as someone drew them: in one row, or in several. -/
inductive Drawing
  | line (codes : List UInt8)
  | grid (rows : List (List UInt8))

/-- The sides of a drawing that does not have the board's. -/
structure WrongShape where
  sides : List Nat
deriving DecidableEq, Repr

/-- The sides of a drawing in brackets; a single side keeps a comma. -/
def sidesText : List Nat → String
  | [side] => "(" ++ toString side ++ ",)"
  | sides => "(" ++ ", ".intercalate (sides.map toString) ++ ")"

def WrongShape.message (fault : WrongShape) : String :=
  "tile map must have shape " ++ sidesText [boardHeight, boardWidth]
    ++ ", got " ++ sidesText fault.sides

/-- The sides of a drawing, the number of rows first. -/
def Drawing.sides : Drawing → List Nat
  | .line codes => [codes.length]
  | .grid rows => [rows.length, (rows.headD []).length]

/-- The map that a drawing shows, if it has the sides of the board. -/
def TileMap.ofDrawing (drawing : Drawing) : Except WrongShape TileMap :=
  match drawing with
  | .line _ => .error ⟨drawing.sides⟩
  | .grid rows =>
      if rows.length = boardHeight ∧ ∀ row ∈ rows, row.length = boardWidth then
        .ok (ofFn fun cell => (rows.getD cell.y []).getD cell.x 0)
      else .error ⟨drawing.sides⟩

end RiverPuzzle
