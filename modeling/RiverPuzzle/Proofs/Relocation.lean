import RiverPuzzle.Proofs.Placement

/-!
# Code moved to other addresses

The instructions of a statement at another address are the same ones, with all jumps moved by
the same distance, and those of two lists of statements in a row lie one behind the other.
The main statement puts the program of such a row together from the programs of its parts.
-/

namespace RiverPuzzle

/-- The instruction with its target further on by a distance. -/
def Instr.shift (distance : Int) : Instr → Instr
  | .move direction => .move direction
  | .goto address => .goto (address + distance)
  | .branch probe otherwise => .branch probe (otherwise + distance)
  | .idle => .idle

namespace Instr

@[simp] theorem shift_zero : Instr.shift 0 = id := by
  funext instr
  cases instr <;> simp [shift]

theorem shift_shift (instr : Instr) (distance more : Int) :
    (instr.shift distance).shift more = instr.shift (distance + more) := by
  cases instr <;> simp [shift, Int.add_assoc]

/-- A salmon at the moved address is led to the same cell, and to the moved next address. -/
theorem lead_shift (instr : Instr) (tiles : TileMap) (cell : Cell) (pc distance : Int) :
    (instr.shift distance).lead tiles cell (pc + distance) =
      ((instr.lead tiles cell pc).1, (instr.lead tiles cell pc).2 + distance) := by
  cases instr with
  | move direction => simp [shift, lead, Int.add_right_comm]
  | goto address => rfl
  | branch probe otherwise =>
      by_cases hholds : tiles.senses probe cell
      · simp [shift, lead, hholds, Int.add_right_comm]
      · simp [shift, lead, hholds]
  | idle => simp [shift, lead, Int.add_right_comm]

end Instr

namespace Stmt

mutual

theorem code_shift (start distance : Int) :
    (stmt : Stmt) → stmt.code (start + distance) = (stmt.code start).map (Instr.shift distance)
  | .move direction => by simp [Instr.shift]
  | .loop body => by simp [Instr.shift, codeAll_shift start distance body]
  | .cond probe body => by
      have hbody := codeAll_shift (start + 1) distance body
      rw [Int.add_right_comm] at hbody
      simp [Instr.shift, hbody, Int.add_right_comm]

/-- At another address statements have the same instructions, with the jumps moved. -/
theorem codeAll_shift (start distance : Int) :
    (stmts : List Stmt) →
      codeAll (start + distance) stmts = (codeAll start stmts).map (Instr.shift distance)
  | [] => by simp
  | stmt :: rest => by
      have hrest := codeAll_shift (start + (stmt.code start).length) distance rest
      rw [Int.add_right_comm] at hrest
      simp [code_shift start distance stmt, hrest]

end

theorem codeAll_append (start : Int) (front back : List Stmt) :
    codeAll start (front ++ back) =
      codeAll start front ++ codeAll (start + (codeAll start front).length) back := by
  induction front generalizing start with
  | nil => simp
  | cons stmt front ih => simp [ih, Int.add_assoc]

end Stmt

namespace Program

/-- The program of statements in a row is that of the first part, and behind it that of the
second with its jumps moved. -/
theorem ofStatements_append (front back : List Stmt) :
    ofStatements (front ++ back) =
      ofStatements front ++ (ofStatements back).map (Instr.shift (ofStatements front).size) := by
  have hback := Stmt.codeAll_shift 0 (ofStatements front).size back
  rw [Int.zero_add, size_ofStatements] at hback
  apply Array.toList_inj.1
  rw [Array.toList_append, Array.toList_map]
  change Stmt.codeAll 0 (front ++ back) =
    Stmt.codeAll 0 front ++ (Stmt.codeAll 0 back).map (Instr.shift (ofStatements front).size)
  rw [Stmt.codeAll_append, Int.zero_add, hback, size_ofStatements]

end Program

end RiverPuzzle
