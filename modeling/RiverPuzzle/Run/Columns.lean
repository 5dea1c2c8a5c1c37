import RiverPuzzle.Run.Table

/-!
# Columns of a trace

Rows that wait to be written are kept column by column, each column with one number for
every row.  A table is made of the rows that the columns hold.
-/

namespace RiverPuzzle

/-- The numbers of rows, column by column; no column is shorter than another. -/
structure Columns where
  level : Array Int
  tick : Array Int
  id : Array Int
  x : Array Int
  y : Array Int
  pc : Array Int
  even : ∀ column ∈ [level, id, x, y, pc], column.size = tick.size
deriving DecidableEq, Repr

namespace Columns

/-- Columns without rows. -/
def empty : Columns :=
  ⟨#[], #[], #[], #[], #[], #[], by simp⟩

/-- The columns with one more row. -/
def push (columns : Columns) (row : TraceRow) : Columns where
  level := columns.level.push row.level
  tick := columns.tick.push row.tick
  id := columns.id.push row.id
  x := columns.x.push row.x
  y := columns.y.push row.y
  pc := columns.pc.push row.pc
  even := by simpa using columns.even

/-- The number of rows, which the column of the ticks tells. -/
def size (columns : Columns) : Nat :=
  columns.tick.size

/-- There are no rows, as the column of the ticks tells. -/
def isEmpty (columns : Columns) : Bool :=
  columns.tick.isEmpty

/-- The row at a place. -/
def row (columns : Columns) (place : Nat) : TraceRow where
  level := columns.level.getD place 0
  tick := columns.tick.getD place 0
  id := columns.id.getD place 0
  x := columns.x.getD place 0
  y := columns.y.getD place 0
  pc := columns.pc.getD place 0

/-- The rows, in order. -/
def toList (columns : Columns) : List TraceRow :=
  (List.range columns.size).map columns.row

variable {columns : Columns}

theorem size_eq (columns : Columns) :
    columns.level.size = columns.size ∧ columns.tick.size = columns.size ∧
      columns.id.size = columns.size ∧ columns.x.size = columns.size ∧
      columns.y.size = columns.size ∧ columns.pc.size = columns.size := by
  have heven := columns.even
  simp only [List.mem_cons, List.not_mem_nil, or_false, forall_eq_or_imp, forall_eq] at heven
  obtain ⟨hlevel, hid, hx, hy, hpc⟩ := heven
  exact ⟨hlevel, rfl, hid, hx, hy, hpc⟩

theorem length_toList (columns : Columns) : columns.toList.length = columns.size := by
  simp [toList]

theorem toList_empty : empty.toList = [] := rfl

theorem isEmpty_iff : columns.isEmpty = true ↔ columns.toList = [] := by
  rw [← List.length_eq_zero_iff, length_toList, isEmpty, Array.isEmpty_iff_size_eq_zero, size]

theorem row_push (columns : Columns) (row : TraceRow) (place : Nat) :
    (columns.push row).row place = if place = columns.size then row else columns.row place := by
  obtain ⟨hlevel, htick, hid, hx, hy, hpc⟩ := columns.size_eq
  unfold Columns.row push
  simp only [Array.getD_eq_getD_getElem?, Array.getElem?_push, hlevel, htick, hid, hx, hy, hpc]
  split <;> rfl

theorem toList_push (columns : Columns) (row : TraceRow) :
    (columns.push row).toList = columns.toList ++ [row] := by
  have hsize : (columns.push row).size = columns.size + 1 := by simp [size, push]
  rw [toList, hsize, List.range_succ, List.map_append, List.map_singleton, row_push, if_pos rfl]
  congr 1
  apply List.map_congr_left
  intro place hplace
  rw [row_push, if_neg (Nat.ne_of_lt (List.mem_range.1 hplace))]

end Columns

end RiverPuzzle
