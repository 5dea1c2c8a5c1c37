import RiverPuzzle.Code.Instruction
import RiverPuzzle.Code.Parser

/-!
# From statements to instructions

Addresses are given out in one pass from left to right.  A move takes one
address; a loop takes those of its body and one for the jump back; a guarded
block takes one for the branch and those of its body.
-/

namespace RiverPuzzle

mutual

/-- The next free address and the instructions of one statement, whose first
instruction lies at `start`. -/
def Stmt.lower (start : Int) : Stmt → Int × List Instr
  | .move direction => (start + 1, [.move direction])
  | .loop body =>
      let (next, code) := Stmt.lowerAll start body
      (next + 1, code ++ [.goto start])
  | .cond probe body =>
      let (next, code) := Stmt.lowerAll (start + 1) body
      (next, .branch probe next :: code)

/-- The next free address and the instructions of a list of statements, the
first of which lies at `start`. -/
def Stmt.lowerAll (start : Int) : List Stmt → Int × List Instr
  | [] => (start, [])
  | stmt :: rest =>
      let (next, code) := stmt.lower start
      let (last, more) := Stmt.lowerAll next rest
      (last, code ++ more)

end

/-- The program for a list of statements. -/
def Program.ofStatements (statements : List Stmt) : Program :=
  (Stmt.lowerAll 0 statements).2.toArray

/-- The program that a text describes. -/
def Program.ofText (source : List Char) : Except Rejection Program :=
  (parse source).map Program.ofStatements

end RiverPuzzle
