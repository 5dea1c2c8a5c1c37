import RiverPuzzle.Proofs.Placement

/-!
# Statements from instructions

Instructions show no blocks, but their jumps do.  A jump back to the first address ends a loop
that begins there, and the last such jump ends the outermost one; a branch skips the block that
it guards.  This module reads the statements off a list of instructions that way, and refuses
every list that comes from no statements.  The main statement: lowering loses nothing.
-/

namespace RiverPuzzle

namespace Instr

/-- The instructions before and behind the last one that is the given instruction. -/
def cutLast? (last : Instr) : List Instr → Option (List Instr × List Instr)
  | [] => none
  | instr :: rest =>
      match cutLast? last rest with
      | some (front, back) => some (instr :: front, back)
      | none => if instr = last then some ([], rest) else none

variable {last : Instr} {code front back : List Instr}

theorem cutLast?_eq_none_iff : cutLast? last code = none ↔ last ∉ code := by
  induction code with
  | nil => simp [cutLast?]
  | cons instr rest ih =>
      rw [cutLast?, List.mem_cons, not_or, ← ih]
      cases cutLast? last rest with
      | some found => simp
      | none => simp [eq_comm]

theorem eq_append_of_cutLast? (h : cutLast? last code = some (front, back)) :
    code = front ++ last :: back := by
  induction code generalizing front with
  | nil => cases h
  | cons instr rest ih =>
      rw [cutLast?] at h
      split at h
      · rename_i before after hrest
        cases h
        rw [ih hrest, List.cons_append]
      · split at h
        · rename_i hinstr
          cases h
          rw [hinstr, List.nil_append]
        · cases h

theorem cutLast?_append (h : last ∉ back) :
    cutLast? last (front ++ last :: back) = some (front, back) := by
  induction front with
  | nil => rw [List.nil_append, cutLast?, cutLast?_eq_none_iff.2 h, if_pos rfl]
  | cons instr front ih => rw [List.cons_append, cutLast?, ih]

end Instr

namespace Stmt

/-- The statements whose instructions these are, if the first instruction lies at `start`. -/
def ofCode? (start : Int) (code : List Instr) : Option (List Stmt) :=
  match _hcut : Instr.cutLast? (.goto start) code with
  | some (front, back) =>
      (ofCode? start front).bind fun body =>
        (ofCode? (start + front.length + 1) back).map fun rest => .loop body :: rest
  | none =>
      match code with
      | [] => some []
      | .move direction :: code =>
          (ofCode? (start + 1) code).map fun rest => .move direction :: rest
      | .branch probe otherwise :: code =>
          if start + 1 ≤ otherwise ∧ otherwise ≤ start + 1 + code.length then
            (ofCode? (start + 1) (code.take (otherwise - (start + 1)).toNat)).bind fun body =>
              (ofCode? otherwise (code.drop (otherwise - (start + 1)).toNat)).map fun rest =>
                .cond probe body :: rest
          else none
      | _ => none
termination_by code.length
decreasing_by
  · rw [Instr.eq_append_of_cutLast? _hcut, List.length_append, List.length_cons]
    omega
  · rw [Instr.eq_append_of_cutLast? _hcut, List.length_append, List.length_cons]
    omega
  · simp
  · simp only [List.length_take, List.length_cons]
    omega
  · simp only [List.length_drop, List.length_cons]
    omega

variable (start : Int) (probe : Probe) (body rest : List Stmt)

theorem codeAll_move_cons (direction : Direction) :
    codeAll start (.move direction :: rest) = .move direction :: codeAll (start + 1) rest := by
  rw [codeAll_cons, code_move, List.length_singleton, Int.natCast_one, List.singleton_append]

theorem codeAll_loop_cons :
    codeAll start (.loop body :: rest) = codeAll start body ++
      .goto start :: codeAll (start + (codeAll start body).length + 1) rest := by
  rw [codeAll_cons, code_loop, List.length_append, List.length_singleton, Int.natCast_add,
    Int.natCast_one, ← Int.add_assoc, List.append_assoc, List.singleton_append]

theorem codeAll_cond_cons :
    codeAll start (.cond probe body :: rest) =
      .branch probe (start + 1 + (codeAll (start + 1) body).length) ::
        (codeAll (start + 1) body ++
          codeAll (start + 1 + (codeAll (start + 1) body).length) rest) := by
  rw [codeAll_cons, code_cond, List.length_cons, Int.natCast_add, Int.natCast_one,
    Int.add_right_comm start 1, ← Int.add_assoc, List.cons_append]

variable {start probe}

/-- Whatever is read off a list of instructions has these instructions. -/
theorem codeAll_of_ofCode? {code : List Instr} {stmts : List Stmt}
    (h : ofCode? start code = some stmts) : codeAll start stmts = code := by
  fun_induction ofCode? start code generalizing stmts with
  | case1 start code front back hcut ihbody ihrest =>
      obtain ⟨body, hbody, hstmts⟩ := Option.bind_eq_some_iff.1 h
      obtain ⟨rest, hrest, rfl⟩ := Option.map_eq_some_iff.1 hstmts
      rw [codeAll_loop_cons, ihbody hbody, ihrest hrest, Instr.eq_append_of_cutLast? hcut]
  | case2 start =>
      cases h
      exact codeAll_nil start
  | case3 start direction code _ ih =>
      obtain ⟨rest, hrest, rfl⟩ := Option.map_eq_some_iff.1 h
      rw [codeAll_move_cons, ih hrest]
  | case4 start probe otherwise code _ hbounds ihbody ihrest =>
      obtain ⟨body, hbody, hstmts⟩ := Option.bind_eq_some_iff.1 h
      obtain ⟨rest, hrest, rfl⟩ := Option.map_eq_some_iff.1 hstmts
      have hend : start + 1 + (codeAll (start + 1) body).length = otherwise := by
        rw [ihbody hbody, List.length_take]
        omega
      rw [codeAll_cond_cons, hend, ihbody hbody, ihrest hrest, List.take_append_drop]
  | case5 => cases h
  | case6 => cases h

section

variable {front back code inner : List Instr}

/-- The last jump back to the first address ends the loop that begins there. -/
theorem ofCode?_loop (hback : Instr.goto start ∉ back) :
    ofCode? start (front ++ .goto start :: back) =
      (ofCode? start front).bind fun body =>
        (ofCode? (start + front.length + 1) back).map fun rest => .loop body :: rest := by
  have hcut : Instr.cutLast? (.goto start) (front ++ .goto start :: back) = some (front, back) :=
    Instr.cutLast?_append hback
  rw [ofCode?]
  split
  · rename_i hfound
    cases hcut.symm.trans hfound
    rfl
  · rename_i hnone
    cases hcut.symm.trans hnone

theorem ofCode?_move {direction : Direction} (hcode : Instr.goto start ∉ code) :
    ofCode? start (.move direction :: code) =
      (ofCode? (start + 1) code).map fun rest => .move direction :: rest := by
  have hcut : Instr.cutLast? (.goto start) (.move direction :: code) = none :=
    Instr.cutLast?_eq_none_iff.2 (by simpa using hcode)
  rw [ofCode?]
  split
  · rename_i hfound
    cases hcut.symm.trans hfound
  · rfl

theorem ofCode?_branch (hinner : Instr.goto start ∉ inner) (hcode : Instr.goto start ∉ code) :
    ofCode? start (.branch probe (start + 1 + inner.length) :: (inner ++ code)) =
      (ofCode? (start + 1) inner).bind fun body =>
        (ofCode? (start + 1 + inner.length) code).map fun rest => .cond probe body :: rest := by
  have hcut : Instr.cutLast? (.goto start)
      (.branch probe (start + 1 + inner.length) :: (inner ++ code)) = none :=
    Instr.cutLast?_eq_none_iff.2 (by simp [hinner, hcode])
  have hcount : (start + 1 + inner.length - (start + 1)).toNat = inner.length := by omega
  rw [ofCode?]
  split
  · rename_i hfound
    cases hcut.symm.trans hfound
  · simp only
    rw [if_pos (by rw [List.length_append]; omega), hcount, List.take_left, List.drop_left]

end

/-- Statements never jump back before their first instruction. -/
theorem goto_notMem_codeAll {inner : Int} (h : start < inner) (stmts : List Stmt) :
    Instr.goto start ∉ codeAll inner stmts := by
  intro hmem
  have := codeAll_jumpsWithin inner stmts _ hmem start rfl
  omega

mutual

theorem ofCode?_cons (start : Int) : (stmt : Stmt) → (rest : List Stmt) →
    (∀ next, ofCode? next (codeAll next rest) = some rest) →
    ofCode? start (codeAll start (stmt :: rest)) = some (stmt :: rest)
  | .move direction, rest, hrest => by
      rw [codeAll_move_cons, ofCode?_move (goto_notMem_codeAll (by omega) rest), hrest,
        Option.map_some]
  | .loop body, rest, hrest => by
      rw [codeAll_loop_cons, ofCode?_loop (goto_notMem_codeAll (by omega) rest),
        ofCode?_codeAll start body, Option.bind_some, hrest, Option.map_some]
  | .cond probe body, rest, hrest => by
      rw [codeAll_cond_cons, ofCode?_branch (goto_notMem_codeAll (by omega) body)
        (goto_notMem_codeAll (by omega) rest), ofCode?_codeAll (start + 1) body,
        Option.bind_some, hrest, Option.map_some]

/-- All statements are read off their instructions. -/
theorem ofCode?_codeAll (start : Int) :
    (stmts : List Stmt) → ofCode? start (codeAll start stmts) = some stmts
  | [] => by simp [ofCode?, Instr.cutLast?]
  | stmt :: rest => ofCode?_cons start stmt rest fun next => ofCode?_codeAll next rest

end

theorem ofCode?_eq_some_iff {code : List Instr} {stmts : List Stmt} :
    ofCode? start code = some stmts ↔ codeAll start stmts = code := by
  constructor
  · exact codeAll_of_ofCode?
  · rintro rfl
    exact ofCode?_codeAll start stmts

/-- From instructions, wherever they lie, exactly the statements can be recovered that are
lowered to them.  So no two lists of statements have the same instructions. -/
theorem statements_of_code (start : Int) (one other : List Stmt) (code : List Instr) :
    (ofCode? start code = some one ↔ (lowerAll start one).2 = code) ∧
      ((lowerAll start one).2 = (lowerAll start other).2 ↔ one = other) := by
  refine ⟨ofCode?_eq_some_iff, ?_, fun heq => by rw [heq]⟩
  intro hsame
  have hone : ofCode? start (codeAll start other) = some one := ofCode?_eq_some_iff.2 hsame
  exact Option.some.inj (hone.symm.trans (ofCode?_codeAll start other))

end Stmt

end RiverPuzzle
