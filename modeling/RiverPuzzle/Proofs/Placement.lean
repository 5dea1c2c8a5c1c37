import RiverPuzzle.Code.Lowering
import RiverPuzzle.Proofs.Drift
import RiverPuzzle.Result

/-!
# Code in its place

The instructions of a statement are those of its parts, put one behind the other,
and their jumps stay within them.  This module says so without the counter that
gives out the addresses, and says what it means that a piece of code lies at an
address of a program.  Its main statement: every program made of statements is
closed, so it can always be put into a river.
-/

namespace RiverPuzzle

namespace Stmt

/-- The instructions of a statement whose first instruction lies at `start`. -/
def code (start : Int) (stmt : Stmt) : List Instr :=
  (stmt.lower start).2

/-- The instructions of a list of statements, the first of which lies at `start`. -/
def codeAll (start : Int) (stmts : List Stmt) : List Instr :=
  (Stmt.lowerAll start stmts).2

mutual

/-- The next free address lies behind the instructions. -/
theorem lower_next (start : Int) :
    (stmt : Stmt) → (stmt.lower start).1 = start + (stmt.code start).length
  | .move direction => rfl
  | .loop body => by
      have hbody := lowerAll_next start body
      simp only [code, codeAll, lower, List.length_append, List.length_singleton] at hbody ⊢
      omega
  | .cond probe body => by
      have hbody := lowerAll_next (start + 1) body
      simp only [code, codeAll, lower, List.length_cons] at hbody ⊢
      omega

theorem lowerAll_next (start : Int) :
    (stmts : List Stmt) → (Stmt.lowerAll start stmts).1 = start + (codeAll start stmts).length
  | [] => by simp [codeAll, lowerAll]
  | stmt :: rest => by
      have hstmt := lower_next start stmt
      have hrest := lowerAll_next (stmt.lower start).1 rest
      simp only [code, codeAll, lowerAll, List.length_append] at hstmt hrest ⊢
      omega

end

@[simp] theorem code_move (start : Int) (direction : Direction) :
    (Stmt.move direction).code start = [.move direction] := by
  simp [code, lower]

@[simp] theorem code_loop (start : Int) (body : List Stmt) :
    (Stmt.loop body).code start = codeAll start body ++ [.goto start] := by
  simp [code, codeAll, lower]

@[simp] theorem code_cond (start : Int) (probe : Probe) (body : List Stmt) :
    (Stmt.cond probe body).code start =
      .branch probe (start + 1 + (codeAll (start + 1) body).length) ::
        codeAll (start + 1) body := by
  rw [← lowerAll_next]
  simp [code, codeAll, lower]

@[simp] theorem codeAll_nil (start : Int) : codeAll start [] = [] := by
  simp [codeAll, lowerAll]

@[simp] theorem codeAll_cons (start : Int) (stmt : Stmt) (rest : List Stmt) :
    codeAll start (stmt :: rest) =
      stmt.code start ++ codeAll (start + (stmt.code start).length) rest := by
  rw [← lower_next]
  simp [code, codeAll, lowerAll]

mutual

/-- The number of statements that a statement is made of, at all depths. -/
def nodes : Stmt → Nat
  | .move _ => 1
  | .loop body => nodesAll body + 1
  | .cond _ body => nodesAll body + 1

/-- The number of statements of a list, at all depths. -/
def nodesAll : List Stmt → Nat
  | [] => 0
  | stmt :: rest => stmt.nodes + nodesAll rest

end

theorem nodesAll_append (front back : List Stmt) :
    nodesAll (front ++ back) = nodesAll front + nodesAll back := by
  induction front with
  | nil => rw [List.nil_append, nodesAll, Nat.zero_add]
  | cons stmt front ih => rw [List.cons_append, nodesAll, nodesAll, ih, Nat.add_assoc]

@[simp] theorem nodesAll_reverse (stmts : List Stmt) : nodesAll stmts.reverse = nodesAll stmts := by
  induction stmts with
  | nil => rfl
  | cons stmt rest ih =>
      rw [List.reverse_cons, nodesAll_append, ih, nodesAll, nodesAll, nodesAll, Nat.add_zero,
        Nat.add_comm]

@[simp] theorem nodes_close (header : Header) (body : List Stmt) :
    (header.close body).nodes = nodesAll body + 1 := by
  cases header <;> rfl

theorem nodes_pos (stmt : Stmt) : 0 < stmt.nodes := by
  cases stmt <;> exact Nat.succ_pos _

mutual

theorem length_code (start : Int) : (stmt : Stmt) → (stmt.code start).length = stmt.nodes
  | .move direction => by rw [code_move, nodes, List.length_singleton]
  | .loop body => by
      rw [code_loop, nodes, List.length_append, List.length_singleton, length_codeAll start body]
  | .cond probe body => by
      rw [code_cond, nodes, List.length_cons, length_codeAll (start + 1) body]

/-- Every statement, at whatever depth, makes one instruction. -/
theorem length_codeAll (start : Int) :
    (stmts : List Stmt) → (codeAll start stmts).length = nodesAll stmts
  | [] => by rw [codeAll_nil, nodesAll, List.length_nil]
  | stmt :: rest => by
      rw [codeAll_cons, nodesAll, List.length_append, length_code start stmt,
        length_codeAll _ rest]

end

theorem code_length_pos (start : Int) (stmt : Stmt) : 0 < (stmt.code start).length := by
  rw [length_code]
  exact stmt.nodes_pos

/-- Every jump among the instructions leads to one of them, or just behind. -/
def JumpsWithin (start : Int) (code : List Instr) : Prop :=
  ∀ instr ∈ code, ∀ target, instr.target? = some target →
    start ≤ target ∧ target ≤ start + code.length

mutual

theorem code_jumpsWithin (start : Int) :
    (stmt : Stmt) → JumpsWithin start (stmt.code start)
  | .move direction => by
      intro instr hinstr target htarget
      rw [code_move, List.mem_singleton] at hinstr
      subst hinstr
      cases htarget
  | .loop body => by
      intro instr hinstr target htarget
      rw [code_loop, List.mem_append, List.mem_singleton] at hinstr
      rw [code_loop, List.length_append, List.length_singleton]
      rcases hinstr with hbody | rfl
      · have := codeAll_jumpsWithin start body instr hbody target htarget
        omega
      · cases htarget
        omega
  | .cond probe body => by
      intro instr hinstr target htarget
      rw [code_cond, List.mem_cons] at hinstr
      rw [code_cond, List.length_cons]
      rcases hinstr with rfl | hbody
      · cases htarget
        omega
      · have := codeAll_jumpsWithin (start + 1) body instr hbody target htarget
        omega

theorem codeAll_jumpsWithin (start : Int) :
    (stmts : List Stmt) → JumpsWithin start (codeAll start stmts)
  | [] => by
      intro instr hinstr
      simp at hinstr
  | stmt :: rest => by
      intro instr hinstr target htarget
      rw [codeAll_cons, List.mem_append] at hinstr
      rw [codeAll_cons, List.length_append]
      rcases hinstr with hstmt | hrest
      · have := code_jumpsWithin start stmt instr hstmt target htarget
        omega
      · have := codeAll_jumpsWithin _ rest instr hrest target htarget
        omega

end

end Stmt

namespace Program

theorem size_ofStatements (stmts : List Stmt) :
    (ofStatements stmts).size = (Stmt.codeAll 0 stmts).length := rfl

/-- No statement is lowered to a jump out of the program. -/
theorem closed_ofStatements (stmts : List Stmt) : (ofStatements stmts).Closed := by
  intro target htarget
  obtain ⟨instr, hinstr, htarget⟩ := List.mem_filterMap.1 htarget
  have := Stmt.codeAll_jumpsWithin 0 stmts instr hinstr target htarget
  rw [size_ofStatements]
  omega

theorem ofText_eq_ok_iff {source : List Char} {program : Program} :
    ofText source = .ok program ↔
      ∃ stmts, parse source = .ok stmts ∧ ofStatements stmts = program :=
  map_eq_ok_iff

theorem ofText_eq_error_iff {source : List Char} {rejection : Rejection} :
    ofText source = .error rejection ↔ parse source = .error rejection :=
  map_eq_error_iff

theorem closed_of_ofText {source : List Char} {program : Program}
    (h : ofText source = .ok program) : program.Closed := by
  obtain ⟨stmts, -, rfl⟩ := ofText_eq_ok_iff.1 h
  exact closed_ofStatements stmts

theorem size_ofStatements_pos {stmts : List Stmt} (hstmts : stmts ≠ []) :
    0 < (ofStatements stmts).size := by
  obtain ⟨stmt, rest, rfl⟩ := List.exists_cons_of_ne_nil hstmts
  have := Stmt.code_length_pos 0 stmt
  rw [size_ofStatements, Stmt.codeAll_cons, List.length_append]
  omega

/-- The code lies in the program, from the address on. -/
def Holds (program : Program) (address : Int) (code : List Instr) : Prop :=
  ∃ before after, program.toList = before ++ code ++ after ∧ before.length = address

namespace Holds

variable {program : Program} {address : Int} {code more : List Instr}

theorem self (program : Program) : program.Holds 0 program.toList :=
  ⟨[], [], by simp, rfl⟩

theorem left (h : program.Holds address (code ++ more)) : program.Holds address code := by
  obtain ⟨before, after, hlist, hlength⟩ := h
  exact ⟨before, more ++ after, by simp [hlist], hlength⟩

theorem right (h : program.Holds address (code ++ more)) :
    program.Holds (address + code.length) more := by
  obtain ⟨before, after, hlist, hlength⟩ := h
  refine ⟨before ++ code, after, by simp [hlist], ?_⟩
  rw [List.length_append]
  omega

theorem tail {instr : Instr} (h : program.Holds address (instr :: code)) :
    program.Holds (address + 1) code := by
  obtain ⟨before, after, hlist, hlength⟩ := h
  refine ⟨before ++ [instr], after, by simp [hlist], ?_⟩
  rw [List.length_append, List.length_singleton]
  omega

theorem at?_head {instr : Instr} (h : program.Holds address (instr :: code)) :
    program.at? address = some instr := by
  obtain ⟨before, after, hlist, rfl⟩ := h
  rw [at?, if_pos (Int.natCast_nonneg before.length), Int.toNat_natCast,
    ← Array.getElem?_toList, hlist]
  simp

theorem bounds (h : program.Holds address code) :
    0 ≤ address ∧ address + code.length ≤ program.size := by
  obtain ⟨before, after, hlist, rfl⟩ := h
  rw [← Array.length_toList, hlist]
  simp only [List.length_append]
  omega

end Holds

end Program

end RiverPuzzle
