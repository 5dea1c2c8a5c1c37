import RiverPuzzle.Text.Numeral

/-!
# The board and its cells

The board is ten cells wide and twenty high; `x` grows to the right and `y`
downward.  A step that would leave the board is refused: the neighbour is
absent, and whoever steps stays.
-/

namespace RiverPuzzle

/-- The number of columns of the board. -/
abbrev boardWidth : Nat := 10

/-- The number of rows of the board. -/
abbrev boardHeight : Nat := 20

/-- One of the four steps on the board. -/
inductive Direction
  | up
  | down
  | left
  | right
deriving DecidableEq, Repr

namespace Direction

/-- Every direction, in the order in which their words are tried. -/
def all : List Direction :=
  [.up, .down, .left, .right]

/-- The word for a direction. -/
def word : Direction → List Char
  | .up => ['u', 'p']
  | .down => ['d', 'o', 'w', 'n']
  | .left => ['l', 'e', 'f', 't']
  | .right => ['r', 'i', 'g', 'h', 't']

/-- How far a step goes to the right. -/
def dx : Direction → Int
  | .left => -1
  | .right => 1
  | _ => 0

/-- How far a step goes down. -/
def dy : Direction → Int
  | .up => -1
  | .down => 1
  | _ => 0

end Direction

/-- A cell of the board. -/
structure Cell where
  x : Fin boardWidth
  y : Fin boardHeight
deriving DecidableEq, Repr

/-- A pair of numbers that names no cell. -/
structure OffBoard where
  x : Int
  y : Int
deriving DecidableEq, Repr

/-- The message; a number that cannot be written is the complaint in its place. -/
def OffBoard.message (place : OffBoard) : String :=
  match Text.decimal place.x, Text.decimal place.y with
  | .ok x, .ok y => "coordinate out of bounds: (" ++ x ++ ", " ++ y ++ ")"
  | .error fault, _ | _, .error fault => fault.message

namespace Cell

/-- The cell with the given column and row, if the board has it. -/
def at? (x y : Int) : Option Cell :=
  if h : (0 ≤ x ∧ x < boardWidth) ∧ 0 ≤ y ∧ y < boardHeight then
    some ⟨⟨x.toNat, by omega⟩, ⟨y.toNat, by omega⟩⟩
  else none

/-- The cell with the given column and row, or the pair that names none. -/
def ofInts (x y : Int) : Except OffBoard Cell :=
  match at? x y with
  | some cell => .ok cell
  | none => .error ⟨x, y⟩

/-- The cell next to this one, unless the board ends there. -/
def neighbor? (cell : Cell) (direction : Direction) : Option Cell :=
  at? (cell.x + direction.dx) (cell.y + direction.dy)

/-- Where a step leads: to the neighbour, or nowhere at the edge. -/
def step (cell : Cell) (direction : Direction) : Cell :=
  (cell.neighbor? direction).getD cell

/-- Every cell, row by row, each row from left to right. -/
def all : List Cell :=
  (List.finRange boardHeight).flatMap fun y => (List.finRange boardWidth).map fun x => ⟨x, y⟩

theorem at?_self (cell : Cell) : at? cell.x cell.y = some cell := by
  have hx := cell.x.isLt
  have hy := cell.y.isLt
  unfold at?
  rw [dif_pos (by omega)]
  rfl

theorem mem_all (cell : Cell) : cell ∈ all := by
  refine List.mem_flatMap.2 ⟨cell.y, List.mem_finRange cell.y, ?_⟩
  exact List.mem_map.2 ⟨cell.x, List.mem_finRange cell.x, rfl⟩

end Cell

end RiverPuzzle
