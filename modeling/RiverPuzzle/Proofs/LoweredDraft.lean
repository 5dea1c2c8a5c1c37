import RiverPuzzle.Code.Draft
import RiverPuzzle.Proofs.Relocation

/-!
# Lowering of drafts

Drafts of statements are lowered as the statements are: at another address to the same
instructions with the jumps moved, in a row to the instructions of the one and of the other, and
always to as many instructions as there are statements at all depths.  The main statement says so
of all statements and all addresses.
-/

namespace RiverPuzzle

namespace Stmt

mutual

/-- The draft of a statement. -/
def draft : Stmt → Draft
  | .move direction => .move direction
  | .loop body => .loop (draftAll body)
  | .cond probe body => .cond probe (draftAll body)

/-- The drafts of a list of statements. -/
def draftAll : List Stmt → List Draft
  | [] => []
  | stmt :: rest => stmt.draft :: draftAll rest

end

theorem draftAll_append (front back : List Stmt) :
    draftAll (front ++ back) = draftAll front ++ draftAll back := by
  induction front with
  | nil => rfl
  | cons stmt front ih => rw [List.cons_append, draftAll, draftAll, ih, List.cons_append]

mutual

theorem settle_draft : (stmt : Stmt) → stmt.draft.settle = .ok stmt
  | .move direction => rfl
  | .loop body => by rw [draft, Draft.settle, settleAll_draftAll body, Except.map]
  | .cond probe body => by rw [draft, Draft.settle, settleAll_draftAll body, Except.map]

/-- A draft of statements stands for them. -/
theorem settleAll_draftAll :
    (stmts : List Stmt) → Draft.settleAll (draftAll stmts) = .ok stmts
  | [] => rfl
  | stmt :: rest => by
      rw [draftAll, Draft.settleAll, settle_draft stmt, settleAll_draftAll rest]
      rfl

end

theorem lowerAll_draftAll (start : Int) (stmts : List Stmt) :
    Draft.lowerAll start (draftAll stmts) =
      .ok ((codeAll start stmts).length, codeAll start stmts) := by
  have hnext := lowerAll_next start stmts
  rw [Draft.lowerAll, settleAll_draftAll]
  change Except.ok ((Stmt.lowerAll start stmts).1 - start, codeAll start stmts) = _
  rw [hnext, Int.add_comm, Int.add_sub_cancel]

/-- Drafts of statements can be lowered.  At another address each jump leads as much further on;
what stands behind is lowered from the first address that is left free; and the length that is
told is that of the instructions, one for each statement at all depths. -/
theorem lowering_moves_and_joins (start distance : Int) (front back : List Stmt) :
    ∃ code rest : List Instr,
      Draft.lowerAll start (draftAll front) = .ok (code.length, code) ∧
      Draft.lowerAll (start + distance) (draftAll front) =
        .ok (code.length, code.map (Instr.shift distance)) ∧
      Draft.lowerAll (start + code.length) (draftAll back) = .ok (rest.length, rest) ∧
      Draft.lowerAll start (draftAll front ++ draftAll back) =
        .ok (code.length + rest.length, code ++ rest) ∧
      code.length = nodesAll front := by
  refine ⟨codeAll start front, codeAll (start + (codeAll start front).length) back,
    lowerAll_draftAll start front, ?_, lowerAll_draftAll _ back, ?_, length_codeAll start front⟩
  · rw [lowerAll_draftAll, codeAll_shift, List.length_map]
  · rw [← draftAll_append, lowerAll_draftAll, codeAll_append, List.length_append, Int.natCast_add]

end Stmt

end RiverPuzzle
