import RiverPuzzle.Code.Lowering
import RiverPuzzle.Text.Quoted

/-!
# Drafts

A tree of statements that somebody put together by hand, in which plain values
may stand where a statement should.  A draft is lowered only when it holds no
such value; the first one, from left to right, is the one complained about.
-/

namespace RiverPuzzle

/-- A plain value. -/
inductive Value
  | none
  | truth (value : Bool)
  | number (value : Int)
  | text (value : List Char)
deriving DecidableEq, Repr

/-- The value as a message shows it. -/
def Value.written : Value → Except Text.TooManyDigits String
  | .none => .ok "None"
  | .truth true => .ok "True"
  | .truth false => .ok "False"
  | .number value => Text.decimal value
  | .text value => .ok (Text.quoted value)

/-- A statement of a draft. -/
inductive Draft
  | move (direction : Direction)
  | loop (body : List Draft)
  | cond (probe : Probe) (body : List Draft)
  | plain (value : Value)

/-- A plain value where a statement should stand. -/
structure NoStatement where
  value : Value
deriving DecidableEq, Repr

/-- The message; a number that cannot be written is the complaint in its place. -/
def NoStatement.message (fault : NoStatement) : Except Text.TooManyDigits String :=
  fault.value.written.map ("unknown statement node: " ++ ·)

mutual

/-- The statement that a draft stands for. -/
def Draft.settle : Draft → Except NoStatement Stmt
  | .move direction => .ok (.move direction)
  | .loop body => (Draft.settleAll body).map .loop
  | .cond probe body => (Draft.settleAll body).map (.cond probe)
  | .plain value => .error ⟨value⟩

/-- The statements that a list of drafts stands for. -/
def Draft.settleAll : List Draft → Except NoStatement (List Stmt)
  | [] => .ok []
  | draft :: rest => do
      let stmt ← draft.settle
      let stmts ← Draft.settleAll rest
      return stmt :: stmts

end

/-- The number of instructions of a draft and the instructions, the first of
which lies at `start`. -/
def Draft.lowerAll (start : Int) (drafts : List Draft) :
    Except NoStatement (Int × List Instr) := do
  let stmts ← Draft.settleAll drafts
  let (next, code) := Stmt.lowerAll start stmts
  return (next - start, code)

end RiverPuzzle
