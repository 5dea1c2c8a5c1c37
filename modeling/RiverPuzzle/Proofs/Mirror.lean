import Mathlib.Data.List.Basic
import Mathlib.Data.List.InsertIdx
import RiverPuzzle.Proofs.Drift

/-!
# Mirrored rivers

A board can be mirrored from side to side or from top to bottom, and with it a level, a program
and a river.  All edges are alike, and moving and looking take the same steps, so a tick of a
mirrored river is the mirror image of the tick, whether the tick fails or not.  The main
statement follows a level with a program that can be loaded, and their mirror images, for any
number of ticks.
-/

namespace RiverPuzzle

/-- What changes places in a mirror: left and right, or top and bottom. -/
inductive Mirror
  | sides
  | ends
deriving DecidableEq, Repr

namespace Mirror

/-- Where the mirror shows a column. -/
def column : Mirror → Int → Int
  | .sides, x => 9 - x
  | .ends, x => x

/-- Where the mirror shows a row. -/
def row : Mirror → Int → Int
  | .sides, y => y
  | .ends, y => 19 - y

end Mirror

def Direction.mirror : Mirror → Direction → Direction
  | .sides, .left => .right
  | .sides, .right => .left
  | .ends, .up => .down
  | .ends, .down => .up
  | _, direction => direction

namespace Cell

/-- The cell as far from the one edge as the given cell is from the other. -/
def mirror : Mirror → Cell → Cell
  | .sides, ⟨x, y⟩ => ⟨x.rev, y⟩
  | .ends, ⟨x, y⟩ => ⟨x, y.rev⟩

variable (mirror : Mirror) (cell : Cell) (direction : Direction)

@[simp] theorem mirror_mirror : (cell.mirror mirror).mirror mirror = cell := by
  cases mirror <;> simp [Cell.mirror]

theorem x_mirror : ((cell.mirror mirror).x : Int) = mirror.column cell.x := by
  cases mirror with
  | sides =>
      have hx := cell.x.isLt
      simp only [Cell.mirror, Mirror.column, Fin.val_rev, boardWidth] at hx ⊢
      omega
  | ends => rfl

theorem y_mirror : ((cell.mirror mirror).y : Int) = mirror.row cell.y := by
  cases mirror with
  | sides => rfl
  | ends =>
      have hy := cell.y.isLt
      simp only [Cell.mirror, Mirror.row, Fin.val_rev, boardHeight] at hy ⊢
      omega

/-- The mirror shows the cells of the board at cells of the board, and no others. -/
theorem at?_mirror (x y : Int) :
    at? (mirror.column x) (mirror.row y) = (at? x y).map (Cell.mirror mirror) := by
  have hwidth : (boardWidth : Int) = 10 := rfl
  have hheight : (boardHeight : Int) = 20 := rfl
  by_cases hboard : (0 ≤ x ∧ x < boardWidth) ∧ 0 ≤ y ∧ y < boardHeight
  · obtain ⟨cell, hcell⟩ : ∃ cell : Cell, x = cell.x ∧ y = cell.y :=
      ⟨⟨⟨x.toNat, by omega⟩, ⟨y.toNat, by omega⟩⟩, by simp only; omega⟩
    rw [hcell.1, hcell.2, at?_self, ← x_mirror, ← y_mirror, at?_self, Option.map_some]
  · have himage : ¬((0 ≤ mirror.column x ∧ mirror.column x < boardWidth) ∧
        0 ≤ mirror.row y ∧ mirror.row y < boardHeight) := by
      cases mirror <;> simp only [Mirror.column, Mirror.row] <;> omega
    rw [at?, dif_neg himage, at?, dif_neg hboard, Option.map_none]

/-- The mirror keeps neighbours, and the edges. -/
@[simp] theorem neighbor?_mirror :
    (cell.mirror mirror).neighbor? (direction.mirror mirror) =
      (cell.neighbor? direction).map (Cell.mirror mirror) := by
  have hx : mirror.column cell.x + (direction.mirror mirror).dx =
      mirror.column (cell.x + direction.dx) := by
    cases mirror <;> cases direction <;> simp [Mirror.column, Direction.mirror, Direction.dx] <;>
      omega
  have hy : mirror.row cell.y + (direction.mirror mirror).dy =
      mirror.row (cell.y + direction.dy) := by
    cases mirror <;> cases direction <;> simp [Mirror.row, Direction.mirror, Direction.dy] <;>
      omega
  rw [neighbor?, x_mirror, y_mirror, hx, hy, at?_mirror, neighbor?]

@[simp] theorem step_mirror :
    (cell.mirror mirror).step (direction.mirror mirror) =
      (cell.step direction).mirror mirror := by
  rw [step, neighbor?_mirror, Option.getD_map, step]

end Cell

namespace TileMap

/-- The map with every tile at the mirrored cell. -/
def mirror (mirror : Mirror) (tiles : TileMap) : TileMap :=
  ofFn fun cell => tiles.code (cell.mirror mirror)

@[simp] theorem code_mirror (mirror : Mirror) (tiles : TileMap) (cell : Cell) :
    (tiles.mirror mirror).code (cell.mirror mirror) = tiles.code cell := by
  rw [TileMap.mirror, code_ofFn, Cell.mirror_mirror]

@[simp] theorem read_mirror (mirror : Mirror) (tiles : TileMap) (cell : Cell) :
    (tiles.mirror mirror).read (cell.mirror mirror) = tiles.read cell := by
  rw [read, code_mirror, read]

end TileMap

def Probe.mirror (mirror : Mirror) (probe : Probe) : Probe :=
  { probe with direction := probe.direction.mirror mirror }

/-- The instruction with its direction mirrored, if it has one. -/
def Instr.mirror (mirror : Mirror) : Instr → Instr
  | .move direction => .move (direction.mirror mirror)
  | .goto address => .goto address
  | .branch probe otherwise => .branch (probe.mirror mirror) otherwise
  | .idle => .idle

theorem Instr.target?_mirror (mirror : Mirror) (instr : Instr) :
    (instr.mirror mirror).target? = instr.target? := by
  cases instr <;> rfl

namespace Program

def mirror (mirror : Mirror) (program : Program) : Program :=
  program.map (Instr.mirror mirror)

@[simp] theorem size_mirror (mirror : Mirror) (program : Program) :
    (program.mirror mirror).size = program.size :=
  Array.size_map

@[simp] theorem targets_mirror (mirror : Mirror) (program : Program) :
    (program.mirror mirror).targets = program.targets := by
  rw [targets, Program.mirror, Array.toList_map, List.filterMap_map]
  exact List.filterMap_congr fun instr _ => instr.target?_mirror mirror

@[simp] theorem fetch_mirror (mirror : Mirror) (program : Program) (address : Int) :
    (program.mirror mirror).fetch address = (program.fetch address).map (Instr.mirror mirror) := by
  have hat : (program.mirror mirror).at? address =
      (program.at? address).map (Instr.mirror mirror) := by
    simp only [at?, size_mirror]
    simp only [Program.mirror, Array.getElem?_map]
    split
    · rfl
    · split <;> rfl
  rw [fetch, hat, fetch]
  cases program.at? address <;> rfl

@[simp] theorem wrap_mirror (mirror : Mirror) (program : Program) (next : Int) :
    (program.mirror mirror).wrap next = program.wrap next := by
  rw [wrap, size_mirror, wrap]

end Program

def Level.mirror (mirror : Mirror) (level : Level) : Level :=
  ⟨level.number, level.tiles.mirror mirror, level.starts.map (Cell.mirror mirror)⟩

def Salmon.mirror (mirror : Mirror) (salmon : Salmon) : Salmon :=
  { salmon with cell := salmon.cell.mirror mirror }

def Turn.mirror (mirror : Mirror) : Turn → Turn
  | .swims salmon => .swims (salmon.mirror mirror)
  | .arrives salmon => .arrives (salmon.mirror mirror)
  | .stuck salmon fault => .stuck (salmon.mirror mirror) fault

def Jam.mirror (mirror : Mirror) (jam : Jam) : Jam :=
  { jam with salmon := jam.salmon.map (Salmon.mirror mirror) }

def River.mirror (mirror : Mirror) (river : River) : River :=
  ⟨river.tiles.mirror mirror, river.salmon.map (Salmon.mirror mirror),
    river.program.mirror mirror⟩

def Interruption.mirror (mirror : Mirror) (interruption : Interruption) : Interruption :=
  { interruption with river := interruption.river.mirror mirror }

namespace River

section

variable (mirror : Mirror) (river : River)

/-- A look in the mirror shows what a look shows, also beyond the edge. -/
theorem sees_mirror (probe : Probe) (cell : Cell) :
    (river.mirror mirror).sees (probe.mirror mirror) (cell.mirror mirror) =
      river.sees probe cell := by
  simp only [sees, Probe.mirror, River.mirror, Cell.neighbor?_mirror]
  cases cell.neighbor? probe.direction with
  | none => rfl
  | some next => exact congrArg (Except.map _) (river.tiles.read_mirror mirror next)

theorem follow_mirror (salmon : Salmon) (instr : Instr) :
    (river.mirror mirror).follow (salmon.mirror mirror) (instr.mirror mirror) =
      (river.follow salmon instr).map (Prod.map (Cell.mirror mirror) id) := by
  cases instr with
  | move direction =>
      simp only [follow, Instr.mirror, Salmon.mirror, River.mirror, Cell.step_mirror,
        TileMap.read_mirror]
      cases river.tiles.read (salmon.cell.step direction) with
      | error fault => rfl
      | ok tile => cases tile <;> rfl
  | goto address => rfl
  | branch probe otherwise =>
      simp only [follow, Instr.mirror, Salmon.mirror, sees_mirror]
      cases river.sees probe salmon.cell <;> rfl
  | idle => rfl

theorem obey_mirror (salmon : Salmon) :
    (river.mirror mirror).obey (salmon.mirror mirror) =
      (river.obey salmon).map (Salmon.mirror mirror) := by
  have hfetch : (river.mirror mirror).program.fetch (salmon.mirror mirror).pc =
      (river.program.fetch salmon.pc).map (Instr.mirror mirror) :=
    river.program.fetch_mirror mirror salmon.pc
  have hwrap (next : Int) : (river.mirror mirror).program.wrap next = river.program.wrap next :=
    river.program.wrap_mirror mirror next
  rw [obey, hfetch, obey]
  cases river.program.fetch salmon.pc with
  | error fault => rfl
  | ok instr =>
      simp only [Except.map, follow_mirror, hwrap]
      cases river.follow salmon instr <;> rfl

theorem turn_mirror (salmon : Salmon) :
    (river.mirror mirror).turn (salmon.mirror mirror) = (river.turn salmon).mirror mirror := by
  have hread (cell : Cell) :
      (river.mirror mirror).tiles.read (cell.mirror mirror) = river.tiles.read cell :=
    river.tiles.read_mirror mirror cell
  rw [turn, obey_mirror, turn]
  cases river.obey salmon with
  | error fault => rfl
  | ok moved =>
      simp only [Except.map, Salmon.mirror, hread]
      cases river.tiles.read moved.cell with
      | error fault => rfl
      | ok tile => cases tile <;> rfl

/-- The turns of mirrored salmon are the mirrored turns, up to the one that fails. -/
theorem round_mirror (place : Nat) (crowd : List Salmon) :
    (river.mirror mirror).round place (crowd.map (Salmon.mirror mirror)) =
      ((river.round place crowd).map
        (Prod.map (List.map (Salmon.mirror mirror)) id)).mapError (Jam.mirror mirror) := by
  induction crowd generalizing place with
  | nil => rfl
  | cons salmon rest ih =>
      rw [List.map_cons, round, turn_mirror, round]
      cases river.turn salmon with
      | stuck after fault => rfl
      | swims after =>
          simp only [Turn.mirror, ih]
          cases river.round (place + 1) rest <;> rfl
      | arrives after =>
          simp only [Turn.mirror, ih]
          cases river.round (place + 1) rest <;> rfl

theorem takeOut_map (change : Salmon → Salmon) (places : List Nat) (crowd : List Salmon) :
    takeOut places (crowd.map change) = (takeOut places crowd).map change := by
  induction places with
  | nil => rfl
  | cons place places ih => rw [takeOut_cons, takeOut_cons, ih, List.eraseIdx_map]

/-- A tick of a mirrored river is the mirrored tick, and it fails where the tick does. -/
theorem tick_mirror :
    (river.mirror mirror).tick =
      (river.tick.map (River.mirror mirror)).mapError (Interruption.mirror mirror) := by
  have hround := river.round_mirror mirror 0 river.salmon
  simp only [tick, River.mirror] at hround ⊢
  rw [hround]
  cases river.round 0 river.salmon with
  | error jam => rfl
  | ok moved =>
      obtain ⟨crowd, arrived⟩ := moved
      simp only [Except.map, Except.mapError, Prod.map, id, takeOut_map, River.mirror]

theorem ticks_mirror (count : Nat) :
    (river.mirror mirror).ticks count =
      ((river.ticks count).map (River.mirror mirror)).mapError (Interruption.mirror mirror) := by
  induction count with
  | zero => rfl
  | succ count ih =>
      rw [ticks, ih, ticks]
      cases river.ticks count with
      | error interruption => rfl
      | ok after => exact after.tick_mirror mirror

theorem isComplete_mirror : (river.mirror mirror).isComplete = river.isComplete := by
  simp only [isComplete, River.mirror, List.isEmpty_map]

/-- A level and a program can be loaded if their mirror images can. -/
theorem load_mirror (level : Level) (program : Program) :
    load (level.mirror mirror) (program.mirror mirror) =
      (load level program).map (River.mirror mirror) := by
  have hempty : (program.mirror mirror).isEmpty = program.isEmpty := by
    simp only [Array.isEmpty, Program.size_mirror]
  have hclosed : (program.mirror mirror).Closed ↔ program.Closed := by
    simp only [Program.Closed, Program.targets_mirror, Program.size_mirror]
  have hhatch : hatch (level.starts.map (Cell.mirror mirror)) =
      (hatch level.starts).map (Salmon.mirror mirror) := by
    apply List.ext_getElem
    · simp [hatch]
    · intro place _ _
      simp [hatch, Salmon.mirror]
  rw [load, load, hempty]
  simp only [hclosed]
  split
  · rfl
  · split
    · simp only [fresh, Level.mirror, hhatch, Except.map, River.mirror]
    · rfl

end

/-- After any number of ticks of a level with a program that can be loaded, the salmon of the
mirrored level, with the mirrored program, are the mirrored salmon: the same numbers at the
same addresses, in the same order.  The one river is empty exactly when the other one is. -/
theorem salmon_in_mirror (mirror : Mirror) (level : Level) (program : Program) (river : River)
    (count : Nat) (hproper : level.tiles.Proper) (hload : load level program = .ok river) :
    ∃ after image imageAfter, river.ticks count = .ok after ∧
      load (level.mirror mirror) (program.mirror mirror) = .ok image ∧
      image.ticks count = .ok imageAfter ∧
      imageAfter.salmon = after.salmon.map (Salmon.mirror mirror) ∧
      imageAfter.isComplete = after.isComplete := by
  obtain ⟨hsize, hclosed, rfl⟩ := load_eq_ok_iff.1 hload
  have hticks := (sound_fresh hproper hsize hclosed).ticks_eq count
  have himage := (fresh level program).ticks_mirror mirror count
  rw [hticks] at himage
  refine ⟨_, _, _, hticks, ?_, himage, rfl, isComplete_mirror mirror _⟩
  rw [load_mirror, hload]
  rfl

/-- In the pond a salmon that looks to the right and swims to the left; in the mirror it looks
to the left and swims to the right. -/
theorem salmon_in_mirror_pond :
    Level.pond.tiles.Proper ∧
      ∃ river, load Level.pond #[.branch ⟨.right, .rock⟩ 1, .move .left] = .ok river ∧
        ∃ after image imageAfter, river.ticks 4 = .ok after ∧
          load (Level.pond.mirror .sides) #[.branch ⟨.left, .rock⟩ 1, .move .right] = .ok image ∧
          image.ticks 4 = .ok imageAfter ∧
          imageAfter.salmon = after.salmon.map (Salmon.mirror .sides) ∧
          imageAfter.isComplete = after.isComplete := by
  have hload : load Level.pond #[.branch ⟨.right, .rock⟩ 1, .move .left] =
      .ok (fresh Level.pond _) :=
    load_eq_fresh (by decide) (by decide) Level.pond
  have hmirror : Program.mirror .sides #[.branch ⟨.right, .rock⟩ 1, .move .left] =
      #[.branch ⟨.left, .rock⟩ 1, .move .right] := by decide +kernel
  have hrun := salmon_in_mirror .sides Level.pond _ _ 4 Level.pond_proper hload
  rw [hmirror] at hrun
  exact ⟨Level.pond_proper, _, hload, hrun⟩

end River

end RiverPuzzle
