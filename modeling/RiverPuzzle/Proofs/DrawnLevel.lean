import Mathlib.Data.List.Sort
import RiverPuzzle.Proofs.OpenWater
import RiverPuzzle.Proofs.PlainNumeral
import RiverPuzzle.Result

/-!
# The form of a drawn level

A text draws a level if it is the drawing of a whole board with nothing but known letters, and
a numeral of at least one behind it.  This module shows that those texts are exactly the ones
that are read, that the level then has the tiles, the starts and the number that are drawn, and
that a row which a fault names is the first one that is not in order.  So every level that can
be drawn at all is read back from its drawing.
-/

namespace RiverPuzzle

/-- The first cell comes before the second where the board is read row by row. -/
def Cell.Before (first second : Cell) : Prop :=
  first.y < second.y ∨ first.y = second.y ∧ first.x < second.x

namespace Cell

instance : Std.Irrefl Before where
  irrefl cell h := by
    simp [Before] at h

instance : Std.Antisymm Before where
  antisymm first second h h' := by
    unfold Before at h h'
    omega

theorem pairwise_before_all : all.Pairwise Before := by
  rw [all, List.pairwise_flatMap]
  constructor
  · intro y _
    rw [List.pairwise_map]
    exact (List.sortedLT_finRange boardWidth).pairwise.imp fun hx => .inr ⟨rfl, hx⟩
  · refine (List.sortedLT_finRange boardHeight).pairwise.imp ?_
    intro _ _ hy first hfirst second hsecond
    obtain ⟨_, -, rfl⟩ := List.mem_map.1 hfirst
    obtain ⟨_, -, rfl⟩ := List.mem_map.1 hsecond
    exact .inl hy

end Cell

namespace Text

variable {front back text : List Char} {char : Char}

theorem joinPairs_append (h : '\r' ∉ front) :
    joinPairs (front ++ back) = front ++ joinPairs back := by
  induction front with
  | nil => rfl
  | cons char front ih =>
      obtain ⟨hchar, hfront⟩ := not_or.1 (mt List.mem_cons.2 h)
      rw [List.cons_append, joinPairs.eq_2 _ _ fun _ heq _ => hchar heq.symm, ih hfront,
        List.cons_append]

theorem mem_of_mem_joinPairs (h : char ∈ joinPairs text) : char ∈ text := by
  fun_induction joinPairs text with
  | case1 rest ih =>
      rcases List.mem_cons.1 h with rfl | hrest
      · exact List.mem_cons_of_mem _ List.mem_cons_self
      · exact List.mem_cons_of_mem _ (List.mem_cons_of_mem _ (ih hrest))
  | case2 first rest _ ih =>
      rcases List.mem_cons.1 h with rfl | hrest
      · exact List.mem_cons_self
      · exact List.mem_cons_of_mem first (ih hrest)
  | case3 => cases h

end Text

namespace CellMark

/-- The letters that show something: that of a start, and those of the tiles. -/
def letters : List Char :=
  startLetter :: Tile.all.map Tile.letter

/-- What a letter shows; one that is not known counts as open water. -/
def ofLetter (letter : Char) : CellMark :=
  (ofLetter? letter).getD (.plain .empty)

variable {letter : Char}

theorem ofLetter?_eq_none_iff : ofLetter? letter = none ↔ letter ∉ letters := by
  unfold ofLetter? Tile.ofLetter?
  split
  · rename_i hstart
    simp [letters, hstart]
  · rename_i hstart
    split <;> simp_all [letters, Tile.all, Tile.letter]

theorem ofLetter?_of_mem (h : letter ∈ letters) : ofLetter? letter = some (ofLetter letter) := by
  cases hmark : ofLetter? letter with
  | none => exact absurd h (ofLetter?_eq_none_iff.1 hmark)
  | some mark => rw [ofLetter, hmark, Option.getD_some]

theorem ofLetter_eq_start_iff (h : letter ∈ letters) :
    ofLetter letter = .start ↔ letter = startLetter := by
  simp only [letters, Tile.all, List.map_cons, List.map_nil, List.mem_cons, List.not_mem_nil,
    or_false] at h
  rcases h with rfl | rfl | rfl | rfl <;> decide

theorem ground_ofLetter_eq_iff (h : letter ∈ letters) {tile : Tile} :
    (ofLetter letter).ground = tile ↔
      letter = tile.letter ∨ letter = startLetter ∧ tile = .empty := by
  simp only [letters, Tile.all, List.map_cons, List.map_nil, List.mem_cons, List.not_mem_nil,
    or_false] at h
  rcases h with rfl | rfl | rfl | rfl <;> cases tile <;> decide

end CellMark

/-- The row that a fault names. -/
def LevelFault.row? : LevelFault → Option Nat
  | .rowWidth row => some row
  | .unknownCell _ row _ => some row
  | _ => none

namespace Level

/-- The drawing of one row. -/
def drawnRow (letters : Cell → Char) (y : Fin boardHeight) : List Char :=
  (List.finRange boardWidth).map (fun x => letters ⟨x, y⟩) ++ ['\n']

/-- The drawing of a whole board. -/
def drawnBoard (letters : Cell → Char) : List Char :=
  (List.finRange boardHeight).flatMap (drawnRow letters)

/-- A line that is a whole row of known letters. -/
def IsRow (line : List Char) : Prop :=
  ∃ cells, line = cells ++ ['\n'] ∧ cells.length = boardWidth ∧
    ∀ letter ∈ cells, letter ∈ CellMark.letters

/-- The part of a text where a row has to be. -/
def rowOf (text : List Char) (row : Nat) : List Char :=
  (text.drop (row * rowLength)).take rowLength

/-- The text is the drawing of a board, and behind it stands a number of at least one. -/
def WellDrawn (text : List Char) : Prop :=
  ∃ letters rest number, text = drawnBoard letters ++ rest ∧
    (∀ cell, letters cell ∈ CellMark.letters) ∧
    Text.numeral? (Text.trim rest) = some number ∧ 1 ≤ number

/-- The level has the tiles and the starts that the letters show. -/
structure Shows (letters : Cell → Char) (level : Level) : Prop where
  known : ∀ cell, letters cell ∈ CellMark.letters
  tile : ∀ cell tile, level.read cell = .ok tile ↔
    letters cell = tile.letter ∨ letters cell = CellMark.startLetter ∧ tile = .empty
  start : ∀ cell, cell ∈ level.starts ↔ letters cell = CellMark.startLetter
  order : level.starts.Pairwise Cell.Before

/-- The text is the drawing of this level. -/
def Draws (text : List Char) (level : Level) : Prop :=
  ∃ letters rest, text = drawnBoard letters ++ rest ∧ Shows letters level ∧
    Text.numeral? (Text.trim rest) = some level.number ∧ 1 ≤ level.number

section

variable {row column : Nat} {cells line text rest : List Char} {fault : LevelFault}

theorem readCells_of_known (h : ∀ letter ∈ cells, letter ∈ CellMark.letters) :
    readCells row column cells = .ok (cells.map CellMark.ofLetter) := by
  induction cells generalizing column with
  | nil => rfl
  | cons letter cells ih =>
      rw [readCells, CellMark.ofLetter?_of_mem (h letter List.mem_cons_self)]
      simp only
      rw [ih fun other hother => h other (List.mem_cons_of_mem letter hother), List.map_cons,
        Except.map]

theorem readCells_of_unknown (h : ∃ letter ∈ cells, letter ∉ CellMark.letters) :
    ∃ fault, readCells row column cells = .error fault ∧ fault.row? = some row := by
  induction cells generalizing column with
  | nil =>
      obtain ⟨letter, hmem, -⟩ := h
      cases hmem
  | cons letter cells ih =>
      rw [readCells]
      by_cases hletter : letter ∈ CellMark.letters
      · have hcells : ∃ other ∈ cells, other ∉ CellMark.letters := by
          simpa [hletter] using h
        obtain ⟨fault, hfault, hrow⟩ := ih hcells
        rw [CellMark.ofLetter?_of_mem hletter]
        simp only
        rw [hfault]
        exact ⟨fault, rfl, hrow⟩
      · rw [CellMark.ofLetter?_eq_none_iff.2 hletter]
        exact ⟨_, rfl, rfl⟩

theorem readRow_of_known (h : ∀ letter ∈ cells, letter ∈ CellMark.letters) :
    readRow row (cells ++ ['\n']) = .ok (cells.map CellMark.ofLetter) := by
  rw [readRow, if_pos List.getLast?_concat, List.dropLast_concat, readCells_of_known h]

theorem readRow_of_not_isRow (hlength : line.length = rowLength) (h : ¬IsRow line) :
    ∃ fault, readRow row line = .error fault ∧ fault.row? = some row := by
  rw [readRow]
  split
  · rename_i hlast
    have hline := List.dropLast_append_getLast? _ hlast
    refine readCells_of_unknown ?_
    by_contra hknown
    push Not at hknown
    refine h ⟨line.dropLast, hline.symm, ?_, hknown⟩
    rw [List.length_dropLast, hlength]
    rfl
  · exact ⟨_, rfl, rfl⟩

theorem rowOf_zero (text : List Char) : rowOf text 0 = text.take rowLength := by
  rw [rowOf, Nat.zero_mul, List.drop_zero]

theorem rowOf_succ (text : List Char) (row : Nat) :
    rowOf text (row + 1) = rowOf (text.drop rowLength) row := by
  rw [rowOf, rowOf, List.drop_drop, Nat.succ_mul, Nat.add_comm]

theorem length_rowOf {row count : Nat} (hlength : count * rowLength ≤ text.length)
    (hrow : row < count) : (rowOf text row).length = rowLength := by
  have hend : (row + 1) * rowLength ≤ count * rowLength := Nat.mul_le_mul_right _ hrow
  rw [Nat.succ_mul] at hend
  rw [rowOf, List.length_take, List.length_drop]
  omega

/-- The rows are read from above, so the fault is in the first one that is not in order. -/
theorem readRows_of_not_isRow {count y : Nat} (hlength : count * rowLength ≤ text.length)
    (hy : y < count) (habove : ∀ above < y, IsRow (rowOf text above))
    (hbad : ¬IsRow (rowOf text y)) :
    ∃ fault, readRows row count text = .error fault ∧ fault.row? = some (row + y) := by
  induction y generalizing row count text with
  | zero =>
      obtain ⟨count, rfl⟩ := Nat.exists_eq_add_one.2 hy
      obtain ⟨fault, hfault, hrow⟩ : ∃ fault, readRow row (rowOf text 0) = .error fault ∧
          fault.row? = some row := readRow_of_not_isRow (length_rowOf hlength hy) hbad
      refine ⟨fault, ?_, hrow⟩
      rw [readRows, ← rowOf_zero, hfault]
  | succ y ih =>
      obtain ⟨count, rfl⟩ := Nat.exists_eq_add_one.2 (Nat.zero_lt_of_lt hy)
      obtain ⟨cells, hline, -, hknown⟩ := habove 0 (Nat.succ_pos y)
      have hrest : count * rowLength ≤ (text.drop rowLength).length := by
        rw [Nat.succ_mul] at hlength
        rw [List.length_drop]
        omega
      rw [rowOf_succ] at hbad
      obtain ⟨fault, hfault, hrow⟩ := ih hrest (Nat.lt_of_succ_lt_succ hy)
        (fun above hlt => rowOf_succ text above ▸ habove (above + 1) (Nat.succ_lt_succ hlt)) hbad
      refine ⟨fault, ?_, ?_⟩
      · rw [readRows, ← rowOf_zero, hline, readRow_of_known hknown]
        simp only
        rw [hfault, Except.map]
      · rw [hrow, Nat.add_assoc, Nat.add_comm 1 y]

theorem readNumber_eq_ok_iff {number : Int} :
    readNumber text = .ok number ↔
      Text.numeral? (Text.trim text) = some number ∧ 1 ≤ number := by
  unfold readNumber
  simp only
  cases hnumeral : Text.numeral? (Text.trim text) with
  | none => simp
  | some value =>
      by_cases hvalue : value < 1
      · simp [hvalue]
        omega
      · simp [hvalue]
        omega

theorem row?_of_readNumber (h : readNumber text = .error fault) : fault.row? = none := by
  unfold readNumber at h
  simp only at h
  split at h
  · cases h
    rfl
  · split at h <;> cases h
    rfl

end

section

variable {letters : Cell → Char} {text rest : List Char}

/-- The marks of one row of letters. -/
def drawnMarks (letters : Cell → Char) (y : Fin boardHeight) : List CellMark :=
  (List.finRange boardWidth).map fun x => CellMark.ofLetter (letters ⟨x, y⟩)

/-- The level that a board of letters shows. -/
def drawn (letters : Cell → Char) (number : Int) : Level :=
  ofMarks number ((List.finRange boardHeight).map (drawnMarks letters))

theorem length_drawnRow (letters : Cell → Char) (y : Fin boardHeight) :
    (drawnRow letters y).length = rowLength := by
  rw [drawnRow, List.length_append, List.length_map, List.length_finRange, List.length_singleton]

theorem length_drawnBoard (letters : Cell → Char) : (drawnBoard letters).length = drawnLength := by
  simp [drawnBoard, List.length_flatMap, length_drawnRow]

theorem readRow_drawnRow (hknown : ∀ cell, letters cell ∈ CellMark.letters) (row : Nat)
    (y : Fin boardHeight) : readRow row (drawnRow letters y) = .ok (drawnMarks letters y) := by
  rw [drawnRow, readRow_of_known, List.map_map]
  · rfl
  · simp [hknown]

theorem readRows_drawn (hknown : ∀ cell, letters cell ∈ CellMark.letters) (row : Nat)
    (ys : List (Fin boardHeight)) (rest : List Char) :
    readRows row ys.length (ys.flatMap (drawnRow letters) ++ rest) =
      .ok (ys.map (drawnMarks letters)) := by
  induction ys generalizing row with
  | nil => rfl
  | cons y ys ih =>
      have hrow := length_drawnRow letters y
      rw [List.length_cons, readRows, List.flatMap_cons, List.append_assoc,
        List.take_left' hrow, List.drop_left' hrow, readRow_drawnRow hknown]
      simp only
      rw [ih, Except.map, List.map_cons]

/-- Behind a drawn board only the number can be at fault. -/
theorem ofText_of_drawnBoard (htext : Text.joinPairs text = drawnBoard letters ++ rest)
    (hknown : ∀ cell, letters cell ∈ CellMark.letters) :
    ofText text = (readNumber rest).map (drawn letters) := by
  have hlength := length_drawnBoard letters
  have hlong : ¬(drawnBoard letters ++ rest).length < drawnLength := by
    rw [List.length_append, hlength]
    omega
  have hrows := readRows_drawn hknown 0 (List.finRange boardHeight) rest
  rw [List.length_finRange] at hrows
  unfold ofText
  rw [htext]
  simp only
  rw [if_neg hlong, List.drop_left' hlength, drawnBoard, hrows]
  rfl

theorem ofText_of_not_isRow {y : Nat} (hlength : drawnLength ≤ (Text.joinPairs text).length)
    (hy : y < boardHeight) (habove : ∀ above < y, IsRow (rowOf (Text.joinPairs text) above))
    (hbad : ¬IsRow (rowOf (Text.joinPairs text) y)) :
    ∃ fault, ofText text = .error fault ∧ fault.row? = some y := by
  obtain ⟨fault, hfault, hrow⟩ : ∃ fault,
      readRows 0 boardHeight (Text.joinPairs text) = .error fault ∧ fault.row? = some (0 + y) :=
    readRows_of_not_isRow hlength hy habove hbad
  refine ⟨fault, ?_, ?_⟩
  · unfold ofText
    simp only
    rw [if_neg (Nat.not_lt.2 hlength), hfault]
  · rw [hrow, Nat.zero_add]

theorem take_eq_flatMap_rowOf (text : List Char) (count : Nat) :
    text.take (count * rowLength) = (List.range count).flatMap (rowOf text) := by
  induction count with
  | zero => simp
  | succ count ih =>
      rw [Nat.succ_mul, List.take_add, ih, List.range_succ, List.flatMap_append,
        List.flatMap_singleton, rowOf]

/-- A text whose rows are all in order begins with the drawing of a board. -/
theorem exists_drawnBoard (hrows : ∀ y < boardHeight, IsRow (rowOf text y)) :
    ∃ letters, text = drawnBoard letters ++ text.drop drawnLength ∧
      ∀ cell, letters cell ∈ CellMark.letters := by
  choose cells hline hwidth hknown using fun y : Fin boardHeight => hrows y y.isLt
  let letters (cell : Cell) : Char := (cells cell.y).getD cell.x '\n'
  have hletter (cell : Cell) (hx : cell.x < (cells cell.y).length) :
      letters cell = (cells cell.y)[cell.x] := by
    simp [letters, hx]
  have hrow : drawnRow letters = fun y : Fin boardHeight => rowOf text y := by
    funext y
    rw [hline, drawnRow]
    congr 1
    refine List.ext_getElem ?_ ?_
    · rw [List.length_map, List.length_finRange, hwidth]
    · intro x _ hx
      simp [letters, hx]
  refine ⟨letters, ?_, ?_⟩
  · have hboard : drawnBoard letters = text.take drawnLength := by
      rw [take_eq_flatMap_rowOf, ← List.map_coe_finRange_eq_range, List.flatMap_map, drawnBoard,
        hrow]
    rw [hboard, List.take_append_drop]
  · intro cell
    have hx : cell.x < (cells cell.y).length := by
      rw [hwidth]
      exact cell.x.isLt
    rw [hletter cell hx]
    exact hknown cell.y _ (List.getElem_mem hx)

/-- A text is too short for a board, or has a first row that is not in order, or begins with
the drawing of a board. -/
theorem ofText_cases (text : List Char) :
    ofText text = .error .tooShort ∨
    (∃ y < boardHeight, ∃ fault, ofText text = .error fault ∧ fault.row? = some y ∧
      (∀ above < y, IsRow (rowOf (Text.joinPairs text) above)) ∧
        ¬IsRow (rowOf (Text.joinPairs text) y)) ∨
    ∃ letters rest, Text.joinPairs text = drawnBoard letters ++ rest ∧
      (∀ cell, letters cell ∈ CellMark.letters) ∧
        ofText text = (readNumber rest).map (drawn letters) := by
  classical
  by_cases hlength : (Text.joinPairs text).length < drawnLength
  · left
    unfold ofText
    simp only
    rw [if_pos hlength]
  · have hlong := Nat.le_of_not_lt hlength
    by_cases hrows : ∀ y < boardHeight, IsRow (rowOf (Text.joinPairs text) y)
    · obtain ⟨letters, htext, hknown⟩ := exists_drawnBoard hrows
      exact .inr (.inr ⟨letters, _, htext, hknown, ofText_of_drawnBoard htext hknown⟩)
    · have hsome : ∃ y, y < boardHeight ∧ ¬IsRow (rowOf (Text.joinPairs text) y) := by
        simpa using hrows
      obtain ⟨hfirst, hbad⟩ := Nat.find_spec hsome
      have habove : ∀ above < Nat.find hsome, IsRow (rowOf (Text.joinPairs text) above) := by
        intro above hlt
        by_contra hnot
        exact Nat.find_min hsome hlt ⟨hlt.trans hfirst, hnot⟩
      obtain ⟨fault, hfault, hrow⟩ := ofText_of_not_isRow hlong hfirst habove hbad
      exact .inr (.inl ⟨_, hfirst, fault, hfault, hrow, habove, hbad⟩)

end

section

variable {letters : Cell → Char} {text rest : List Char} {level : Level} {number : Int}

theorem markAt_drawnMarks (letters : Cell → Char) (cell : Cell) :
    markAt ((List.finRange boardHeight).map (drawnMarks letters)) cell =
      CellMark.ofLetter (letters cell) := by
  simp [markAt, drawnMarks]

theorem read_drawn (letters : Cell → Char) (number : Int) (cell : Cell) :
    (drawn letters number).read cell = .ok (CellMark.ofLetter (letters cell)).ground := by
  rw [read, drawn, read_ofMarks, markAt_drawnMarks]

theorem mem_starts_drawn (letters : Cell → Char) (number : Int) (cell : Cell) :
    cell ∈ (drawn letters number).starts ↔ CellMark.ofLetter (letters cell) = .start := by
  simp [drawn, ofMarks, Cell.mem_all, markAt_drawnMarks]

theorem shows_drawn (hknown : ∀ cell, letters cell ∈ CellMark.letters) (number : Int) :
    Shows letters (drawn letters number) where
  known := hknown
  tile cell tile := by
    rw [read_drawn, Except.ok.injEq, CellMark.ground_ofLetter_eq_iff (hknown cell)]
  start cell := by
    rw [mem_starts_drawn, CellMark.ofLetter_eq_start_iff (hknown cell)]
  order := by
    simp only [drawn, ofMarks]
    exact Cell.pairwise_before_all.filter _

/-- The letters and the number leave nothing of a level open. -/
theorem Shows.eq_drawn (h : Shows letters level) : level = drawn letters level.number := by
  obtain ⟨number, tiles, starts⟩ := level
  have hdrawn := shows_drawn h.known number
  have hstarts : starts = (drawn letters number).starts :=
    h.order.eq_of_mem_iff hdrawn.order fun cell => (h.start cell).trans (hdrawn.start cell).symm
  have htiles : tiles = (drawn letters number).tiles := by
    refine TileMap.ext_code fun cell => ?_
    have hread := read_drawn letters number cell
    have hsame := (h.tile cell _).2 ((hdrawn.tile cell _).1 hread)
    exact (TileMap.code_of_read hsame).trans (TileMap.code_of_read hread).symm
  exact congrArg₂ (Level.mk number) htiles hstarts

/-- The texts that are read are the drawings of levels. -/
theorem ofText_eq_ok_iff_draws : ofText text = .ok level ↔ Draws (Text.joinPairs text) level := by
  constructor
  · intro h
    rcases ofText_cases text with hfault | ⟨y, -, fault, hfault, -⟩ |
      ⟨letters, rest, htext, hknown, hread⟩
    · cases hfault.symm.trans h
    · cases hfault.symm.trans h
    · rw [hread] at h
      obtain ⟨number, hnumber, rfl⟩ := map_eq_ok_iff.1 h
      obtain ⟨hnumeral, hpos⟩ := readNumber_eq_ok_iff.1 hnumber
      exact ⟨letters, rest, htext, shows_drawn hknown number, hnumeral, hpos⟩
  · rintro ⟨letters, rest, htext, hshows, hnumeral, hpos⟩
    rw [ofText_of_drawnBoard htext hshows.known, readNumber_eq_ok_iff.2 ⟨hnumeral, hpos⟩]
    exact congrArg Except.ok hshows.eq_drawn.symm

theorem wellDrawn_iff : WellDrawn text ↔ ∃ level, Draws text level := by
  constructor
  · rintro ⟨letters, rest, number, htext, hknown, hnumeral, hpos⟩
    exact ⟨drawn letters number, letters, rest, htext, shows_drawn hknown number, hnumeral, hpos⟩
  · rintro ⟨level, letters, rest, htext, hshows, hnumeral, hpos⟩
    exact ⟨letters, rest, level.number, htext, hshows.known, hnumeral, hpos⟩

/-- A row that a fault names is the first one that is not in order. -/
theorem first_of_row? {fault : LevelFault} {row : Nat} (h : ofText text = .error fault)
    (hrow : fault.row? = some row) :
    row < boardHeight ∧ (∀ above < row, IsRow (rowOf (Text.joinPairs text) above)) ∧
      ¬IsRow (rowOf (Text.joinPairs text) row) := by
  rcases ofText_cases text with hfault | ⟨y, hy, found, hfault, hfound, habove, hbad⟩ |
    ⟨letters, rest, htext, hknown, hread⟩
  · cases hfault.symm.trans h
    cases hrow
  · cases hfault.symm.trans h
    cases hfound.symm.trans hrow
    exact ⟨hy, habove, hbad⟩
  · rw [hread] at h
    rw [row?_of_readNumber (map_eq_error_iff.1 h)] at hrow
    cases hrow

end

/-- The letter for a cell of a level. -/
def letterAt (level : Level) (cell : Cell) : Char :=
  if cell ∈ level.starts then CellMark.startLetter
  else
    match level.read cell with
    | .ok tile => tile.letter
    | .error _ => Tile.empty.letter

/-- The drawing of a level. -/
def written (level : Level) : List Char :=
  drawnBoard level.letterAt ++ Nat.toDigits 10 level.number.toNat

/-- A level that has a drawing: nothing but tiles, its starts in open water and in the order of
the cells, and a number that a numeral can have. -/
structure Drawable (level : Level) : Prop where
  proper : level.tiles.Proper
  water : ∀ start ∈ level.starts, level.read start = .ok .empty
  order : level.starts.Pairwise Cell.Before
  number_pos : 1 ≤ level.number
  short : (Nat.toDigits 10 level.number.toNat).length ≤ Text.maxNumeralDigits

theorem Drawable.shows {level : Level} (h : Drawable level) : Shows level.letterAt level where
  known := by
    intro cell
    unfold letterAt
    split
    · exact List.mem_cons_self
    · obtain ⟨tile, htile⟩ := h.proper cell
      rw [read, htile]
      cases tile <;> decide
  tile := by
    intro cell tile
    unfold letterAt
    split
    · rename_i hstart
      rw [h.water cell hstart]
      cases tile <;> decide
    · obtain ⟨found, hfound⟩ := h.proper cell
      rw [read, hfound]
      cases found <;> cases tile <;> decide
  start := by
    intro cell
    unfold letterAt
    split
    · rename_i hstart
      exact iff_of_true hstart rfl
    · rename_i hstart
      obtain ⟨tile, htile⟩ := h.proper cell
      rw [read, htile]
      refine iff_of_false hstart ?_
      cases tile <;> decide
  order := h.order

theorem Drawable.return_notMem {level : Level} (h : Drawable level) : '\r' ∉ level.written := by
  intro hmem
  rcases List.mem_append.1 hmem with hboard | hdigits
  · obtain ⟨y, -, hrow⟩ := List.mem_flatMap.1 hboard
    rcases List.mem_append.1 hrow with hcells | hend
    · obtain ⟨x, -, hletter⟩ := List.mem_map.1 hcells
      have hknown := h.shows.known ⟨x, y⟩
      rw [hletter] at hknown
      revert hknown
      decide
    · revert hend
      decide
  · have hdigit := Text.isDigit_of_mem_toDigits hdigits
    cases hdigit

/-- A level is read back from its drawing, whatever blanks stand behind it. -/
theorem ofText_written {level : Level} {tail : List Char} (h : Drawable level)
    (htail : ∀ char ∈ tail, Text.isBlank char = true) :
    ofText (level.written ++ tail) = .ok level := by
  have hblanks : ∀ char ∈ Text.joinPairs tail, Text.isBlank char = true :=
    fun char hchar => htail char (Text.mem_of_mem_joinPairs hchar)
  have hnumeral := Text.numeral?_trim_toDigits h.short hblanks
  rw [Int.toNat_of_nonneg (Int.le_trans (by decide) h.number_pos)] at hnumeral
  rw [ofText_eq_ok_iff_draws, Text.joinPairs_append h.return_notMem, written, List.append_assoc]
  exact ⟨level.letterAt, _, rfl, h.shows, hnumeral, h.number_pos⟩

/-- A text is read exactly if a board of known letters is drawn in it and a number of at least
one stands behind the board, and then as the level that is drawn; every other text is refused.
A fault that names a row names the first one that is not in order.  A level that can be drawn is
read back unchanged from its drawing. -/
theorem drawing_decides (text : List Char) :
    ((∃ level, ofText text = .ok level) ↔ WellDrawn (Text.joinPairs text)) ∧
      (∀ level, ofText text = .ok level ↔ Draws (Text.joinPairs text) level) ∧
      ((∃ fault, ofText text = .error fault) ↔ ¬WellDrawn (Text.joinPairs text)) ∧
      (∀ fault row, ofText text = .error fault → fault.row? = some row →
        row < boardHeight ∧ (∀ above < row, IsRow (rowOf (Text.joinPairs text) above)) ∧
          ¬IsRow (rowOf (Text.joinPairs text) row)) ∧
      ∀ level tail, Drawable level → (∀ char ∈ tail, Text.isBlank char = true) →
        ofText (level.written ++ tail) = .ok level := by
  have hok : (∃ level, ofText text = .ok level) ↔ WellDrawn (Text.joinPairs text) :=
    (exists_congr fun _ => ofText_eq_ok_iff_draws).trans wellDrawn_iff.symm
  have herror : (∃ fault, ofText text = .error fault) ↔ ¬∃ level, ofText text = .ok level := by
    cases ofText text <;> simp
  exact ⟨hok, fun _ => ofText_eq_ok_iff_draws, herror.trans (not_congr hok),
    fun _ _ => first_of_row?, fun _ _ => ofText_written⟩

/-- The pond with one salmon for a cell. -/
def sparsePond : Level :=
  { pond with starts := pond.starts.tail }

theorem sparsePond_drawable : Drawable sparsePond where
  proper := pond_proper
  water := by decide +kernel
  order := by
    simp [sparsePond, pond, Cell.Before]
  number_pos := by decide
  short := by decide

/-- Open water with mud in the second row. -/
def muddy : List Char :=
  "eeeeeeeeee\neeeemeeeee\n".toList ++ (List.replicate 18 "eeeeeeeeee\n".toList).flatten ++ ['1']

/-- The sparse pond is read back from its drawing, and the mud is where the first row that is not
in order is. -/
theorem drawing_decides_pond :
    Drawable sparsePond ∧ ofText (sparsePond.written ++ ['\n']) = .ok sparsePond ∧
      ∃ fault, ofText muddy = .error fault ∧ fault.row? = some 1 ∧
        IsRow (rowOf (Text.joinPairs muddy) 0) ∧ ¬IsRow (rowOf (Text.joinPairs muddy) 1) := by
  obtain ⟨-, -, -, hrow, hback⟩ := drawing_decides muddy
  have hmud : ofText muddy = .error (.unknownCell 'm' 1 4) := by decide +kernel
  obtain ⟨-, habove, hbad⟩ := hrow _ 1 hmud rfl
  have hpond := hback sparsePond ['\n'] sparsePond_drawable (List.forall_mem_singleton.2 rfl)
  exact ⟨sparsePond_drawable, hpond, _, hmud, rfl, habove 0 Nat.one_pos, hbad⟩

end Level

end RiverPuzzle
