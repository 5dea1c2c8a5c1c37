import RiverPuzzle.Level.Basic
import RiverPuzzle.Text.Newline
import RiverPuzzle.Text.Numeral
import RiverPuzzle.Text.Quoted

/-!
# Drawn levels

A level is drawn as one line for each row of the board, one letter for each
cell, and behind the rows the number of the level.  A start is open water with a
salmon in it.
-/

namespace RiverPuzzle

/-- What the letter of one cell shows. -/
inductive CellMark
  | plain (tile : Tile)
  | start
deriving DecidableEq, Repr

namespace CellMark

/-- The letter for a start. -/
def startLetter : Char := 's'

/-- What a letter shows. -/
def ofLetter? (letter : Char) : Option CellMark :=
  if letter = startLetter then some .start
  else (Tile.ofLetter? letter).map .plain

/-- The tile under a mark. -/
def ground : CellMark → Tile
  | .plain tile => tile
  | .start => .empty

end CellMark

/-- Why a text draws no level. -/
inductive LevelFault
  | tooShort
  | rowWidth (row : Nat)
  | unknownCell (letter : Char) (row column : Nat)
  | badNumber (text : List Char)
  | numberBelowOne
deriving DecidableEq, Repr

def LevelFault.message : LevelFault → String
  | .tooShort =>
      "expected " ++ toString boardHeight ++ " rows of " ++ toString boardWidth ++ " cells"
  | .rowWidth row =>
      "row " ++ toString row ++ " must be exactly " ++ toString boardWidth ++ " cells wide"
  | .unknownCell letter row column =>
      "unknown cell " ++ Text.quoted [letter] ++ " at row " ++ toString row
        ++ ", column " ++ toString column
  | .badNumber text => "invalid level number: " ++ Text.quoted text
  | .numberBelowOne => "level number must be >= 1"

namespace Level

/-- The length of a drawn row with the end of its line. -/
abbrev rowLength : Nat := boardWidth + 1

/-- The length of a drawn board. -/
abbrev drawnLength : Nat := boardHeight * rowLength

/-- The marks of the cells of one row, from the given column on. -/
def readCells (row column : Nat) : List Char → Except LevelFault (List CellMark)
  | [] => .ok []
  | letter :: rest =>
      match CellMark.ofLetter? letter with
      | none => .error (.unknownCell letter row column)
      | some mark => (readCells row (column + 1) rest).map (mark :: ·)

/-- The marks of one row; the line has to end where the row does. -/
def readRow (row : Nat) (line : List Char) : Except LevelFault (List CellMark) :=
  if line.getLast? = some '\n' then readCells row 0 line.dropLast
  else .error (.rowWidth row)

/-- The marks of `count` rows, from the given row on. -/
def readRows (row : Nat) : (count : Nat) → List Char → Except LevelFault (List (List CellMark))
  | 0, _ => .ok []
  | count + 1, text =>
      match readRow row (text.take rowLength) with
      | .error fault => .error fault
      | .ok marks => (readRows (row + 1) count (text.drop rowLength)).map (marks :: ·)

/-- The number behind the rows. -/
def readNumber (text : List Char) : Except LevelFault Int :=
  let written := Text.trim text
  match Text.numeral? written with
  | none => .error (.badNumber written)
  | some number => if number < 1 then .error .numberBelowOne else .ok number

/-- The mark of a cell in a board of marks. -/
def markAt (marks : List (List CellMark)) (cell : Cell) : CellMark :=
  (marks.getD cell.y []).getD cell.x (.plain .empty)

/-- The level that a board of marks shows. -/
def ofMarks (number : Int) (marks : List (List CellMark)) : Level where
  number := number
  tiles := TileMap.ofFn fun cell => (markAt marks cell).ground.code
  starts := Cell.all.filter fun cell => markAt marks cell = .start

/-- The level that a text draws. -/
def ofText (text : List Char) : Except LevelFault Level :=
  let text := Text.joinPairs text
  if text.length < drawnLength then .error .tooShort
  else
    match readRows 0 boardHeight text with
    | .error fault => .error fault
    | .ok marks => (readNumber (text.drop drawnLength)).map fun number => ofMarks number marks

end Level

end RiverPuzzle
