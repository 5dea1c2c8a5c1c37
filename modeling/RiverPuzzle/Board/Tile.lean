/-!
# Tiles

What a cell of the river is made of, and the byte that stands for it.  A byte
above two stands for no tile.
-/

namespace RiverPuzzle

/-- What a cell is made of: open water, a rock, or a finish. -/
inductive Tile
  | empty
  | rock
  | finish
deriving DecidableEq, Repr

/-- A byte that stands for no tile. -/
structure UnknownTile where
  code : UInt8
deriving DecidableEq, Repr

def UnknownTile.message (fault : UnknownTile) : String :=
  toString fault.code.toNat ++ " is not a valid Tile"

namespace Tile

/-- Every tile, in the order in which their words are tried. -/
def all : List Tile :=
  [.rock, .empty, .finish]

/-- The word for a tile. -/
def word : Tile → List Char
  | .empty => ['e', 'm', 'p', 't', 'y']
  | .rock => ['r', 'o', 'c', 'k']
  | .finish => ['f', 'i', 'n', 'i', 's', 'h']

/-- The byte that stands for a tile. -/
def code : Tile → UInt8
  | .empty => 0
  | .rock => 1
  | .finish => 2

/-- The tile that a byte stands for. -/
def ofCode? (code : UInt8) : Option Tile :=
  if code = 0 then some .empty
  else if code = 1 then some .rock
  else if code = 2 then some .finish
  else none

/-- The letter for a tile in a drawn level. -/
def letter : Tile → Char
  | .empty => 'e'
  | .rock => 'r'
  | .finish => 'f'

/-- The tile that a letter of a drawn level shows. -/
def ofLetter? : Char → Option Tile
  | 'e' => some .empty
  | 'r' => some .rock
  | 'f' => some .finish
  | _ => none

theorem ofCode?_code (tile : Tile) : ofCode? tile.code = some tile := by
  cases tile <;> rfl

theorem ofLetter?_letter (tile : Tile) : ofLetter? tile.letter = some tile := by
  cases tile <;> rfl

end Tile

end RiverPuzzle
