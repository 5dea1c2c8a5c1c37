import Mathlib.Algebra.Group.Nat.Defs
import RiverPuzzle.Proofs.Placement

/-!
# Instructions in words

An instruction can be put into words unless it stands for something else, or has an address with
too many digits.  A listing puts one after the other into words, so it fails at the first that
cannot be.  The main statement: to list what a text describes fails only for a program with more
instructions than such an address can count.
-/

namespace RiverPuzzle

namespace Text

variable {number : Int}

theorem length_toDigits_le_max_iff :
    (Nat.toDigits 10 number.natAbs).length ≤ maxNumeralDigits ↔
      number.natAbs < 10 ^ maxNumeralDigits :=
  Nat.length_toDigits_le_iff (by decide) (by decide)

theorem decimal_eq_ok_iff {text : String} :
    decimal number = .ok text ↔
      number.natAbs < 10 ^ maxNumeralDigits ∧ toString number = text := by
  rw [← length_toDigits_le_max_iff, decimal]
  split
  · rename_i hshort
    simp [hshort]
  · rename_i hlong
    simp [hlong]

theorem decimal_eq_error_iff {fault : TooManyDigits} :
    decimal number = .error fault ↔
      10 ^ maxNumeralDigits ≤ number.natAbs ∧ TooManyDigits.mk number = fault := by
  rw [← Nat.not_lt, ← length_toDigits_le_max_iff, decimal]
  split
  · rename_i hshort
    simp [hshort]
  · rename_i hlong
    simp [hlong]

end Text

namespace Instr

/-- The instruction can be put into words: it stands for nothing else, and no address in it has
too many digits. -/
def Worded (instr : Instr) : Prop :=
  instr ≠ .idle ∧
    ∀ target, instr.target? = some target → target.natAbs < 10 ^ Text.maxNumeralDigits

variable {instr : Instr} {address : Int} {wording : String → String} {fault : WordingFault}

theorem addressed_eq_ok_iff {text : String} :
    ((Text.decimal address).mapError WordingFault.address).map wording = .ok text ↔
      address.natAbs < 10 ^ Text.maxNumeralDigits ∧ wording (toString address) = text := by
  simp only [map_eq_ok_iff, mapError_eq_ok_iff, Text.decimal_eq_ok_iff]
  constructor
  · rintro ⟨_, ⟨hshort, rfl⟩, htext⟩
    exact ⟨hshort, htext⟩
  · rintro ⟨hshort, htext⟩
    exact ⟨_, ⟨hshort, rfl⟩, htext⟩

theorem addressed_eq_error_iff :
    ((Text.decimal address).mapError WordingFault.address).map wording = .error fault ↔
      10 ^ Text.maxNumeralDigits ≤ address.natAbs ∧ .address ⟨address⟩ = fault := by
  simp only [map_eq_error_iff, mapError_eq_error_iff, Text.decimal_eq_error_iff]
  constructor
  · rintro ⟨_, ⟨hlong, rfl⟩, hfault⟩
    exact ⟨hlong, hfault⟩
  · rintro ⟨hlong, hfault⟩
    exact ⟨_, ⟨hlong, rfl⟩, hfault⟩

theorem exists_text_iff : (∃ text, instr.text = .ok text) ↔ instr.Worded := by
  cases instr with
  | move direction => simp [text, Worded, target?]
  | goto address => simp [text, addressed_eq_ok_iff, Worded, target?]
  | branch probe otherwise => simp [text, addressed_eq_ok_iff, Worded, target?]
  | idle => simp [text, Worded]

/-- There are two reasons why an instruction has no words. -/
theorem text_eq_error_iff :
    instr.text = .error fault ↔
      (instr = .idle ∧ .foreign = fault) ∨
        ∃ target, instr.target? = some target ∧ 10 ^ Text.maxNumeralDigits ≤ target.natAbs ∧
          .address ⟨target⟩ = fault := by
  cases instr with
  | move direction => simp [text, target?]
  | goto address => simp [text, addressed_eq_error_iff, target?]
  | branch probe otherwise => simp [text, addressed_eq_error_iff, target?]
  | idle => simp [text, target?]

end Instr

namespace Program

variable {width address : Nat} {instrs : List Instr} {lines : List String} {fault : WordingFault}

/-- The lines are those of the instructions, one for each. -/
theorem linesFrom_eq_ok_iff :
    linesFrom width address instrs = .ok lines ↔
      lines.length = instrs.length ∧
        ∀ (index : Nat) (h : index < instrs.length), ∃ text, instrs[index].text = .ok text ∧
          lines[index]? = some (listingLine width (address + index) text) := by
  induction instrs generalizing address lines with
  | nil => simp [linesFrom, eq_comm]
  | cons instr rest ih =>
      rw [linesFrom, bind_eq_ok_iff]
      constructor
      · rintro ⟨text, htext, hrest⟩
        obtain ⟨more, hmore, hlines⟩ := bind_eq_ok_iff.1 hrest
        cases hlines
        obtain ⟨hlength, hline⟩ := ih.1 hmore
        refine ⟨congrArg (· + 1) hlength, fun index hindex => ?_⟩
        cases index with
        | zero => exact ⟨text, htext, rfl⟩
        | succ index =>
            obtain ⟨found, hfound, hat⟩ := hline index (Nat.lt_of_succ_lt_succ hindex)
            refine ⟨found, hfound, ?_⟩
            rw [List.getElem?_cons_succ, hat, Nat.add_assoc, Nat.add_comm 1]
      · rintro ⟨hlength, hline⟩
        obtain ⟨text, htext, hfirst⟩ := hline 0 (Nat.succ_pos _)
        obtain ⟨first, more, rfl⟩ := List.exists_cons_of_length_eq_add_one hlength
        cases hfirst
        refine ⟨text, htext, bind_eq_ok_iff.2 ⟨more, ih.2 ⟨Nat.succ.inj hlength, ?_⟩, rfl⟩⟩
        intro index hindex
        obtain ⟨found, hfound, hat⟩ := hline (index + 1) (Nat.succ_lt_succ hindex)
        refine ⟨found, hfound, ?_⟩
        rw [List.getElem?_cons_succ] at hat
        rw [hat, Nat.add_assoc, Nat.add_comm 1]

/-- To list instructions fails at the first one that has no words. -/
theorem linesFrom_eq_error_iff :
    linesFrom width address instrs = .error fault ↔
      ∃ front instr back, instrs = front ++ instr :: back ∧
        (∀ other ∈ front, other.Worded) ∧ instr.text = .error fault := by
  induction instrs generalizing address with
  | nil => simp [linesFrom]
  | cons instr rest ih =>
      rw [linesFrom, bind_eq_error_iff]
      constructor
      · rintro (hfails | ⟨text, htext, hrest⟩)
        · exact ⟨[], instr, rest, rfl, List.forall_mem_nil _, hfails⟩
        · rcases bind_eq_error_iff.1 hrest with hfails | ⟨more, -, hnever⟩
          · obtain ⟨front, other, back, rfl, hfront, hother⟩ := ih.1 hfails
            exact ⟨instr :: front, other, back, rfl,
              List.forall_mem_cons.2 ⟨Instr.exists_text_iff.1 ⟨text, htext⟩, hfront⟩, hother⟩
          · cases hnever
      · rintro ⟨front, other, back, hsplit, hfront, hother⟩
        cases front with
        | nil =>
            cases hsplit
            exact .inl hother
        | cons first front =>
            cases hsplit
            obtain ⟨hfirst, hlater⟩ := List.forall_mem_cons.1 hfront
            obtain ⟨text, htext⟩ := Instr.exists_text_iff.2 hfirst
            exact .inr ⟨text, htext,
              bind_eq_error_iff.2 (.inl (ih.2 ⟨front, other, back, rfl, hlater, hother⟩))⟩

/-- A program has a listing just when all its instructions have words. -/
theorem exists_listing_iff {program : Program} :
    (∃ lines, program.listing = .ok lines) ↔ ∀ instr ∈ program, instr.Worded := by
  constructor
  · rintro ⟨lines, hlines⟩ instr hinstr
    obtain ⟨index, hindex, rfl⟩ := Array.mem_iff_getElem.1 hinstr
    obtain ⟨text, htext, -⟩ := (linesFrom_eq_ok_iff.1 hlines).2 index hindex
    exact Instr.exists_text_iff.1 ⟨text, htext⟩
  · intro hworded
    cases hlisting : program.listing with
    | ok lines => exact ⟨lines, rfl⟩
    | error fault =>
        obtain ⟨front, instr, back, hsplit, -, hfails⟩ := linesFrom_eq_error_iff.1 hlisting
        have hmem : instr ∈ program := by
          rw [← Array.mem_toList_iff, hsplit]
          exact List.mem_append_right front List.mem_cons_self
        obtain ⟨text, htext⟩ := Instr.exists_text_iff.2 (hworded instr hmem)
        cases htext.symm.trans hfails

theorem forall_worded_iff {program : Program} :
    (∀ instr ∈ program, instr.Worded) ↔
      .idle ∉ program ∧
        ∀ target ∈ program.targets, target.natAbs < 10 ^ Text.maxNumeralDigits := by
  constructor
  · intro hworded
    refine ⟨fun hidle => (hworded _ hidle).1 rfl, fun target htarget => ?_⟩
    obtain ⟨instr, hinstr, hfound⟩ := List.mem_filterMap.1 htarget
    exact (hworded instr (Array.mem_toList_iff.1 hinstr)).2 target hfound
  · rintro ⟨hidle, htargets⟩ instr hinstr
    refine ⟨fun heq => hidle (heq ▸ hinstr), fun target htarget => ?_⟩
    exact htargets target
      (List.mem_filterMap.2 ⟨instr, Array.mem_toList_iff.2 hinstr, htarget⟩)

end Program

namespace Stmt

mutual

theorem idle_notMem_code (start : Int) : (stmt : Stmt) → .idle ∉ stmt.code start
  | .move direction => by
      rw [code_move, List.mem_singleton]
      exact nofun
  | .loop body => by
      rw [code_loop, List.mem_append, List.mem_singleton, not_or]
      exact ⟨idle_notMem_codeAll start body, nofun⟩
  | .cond probe body => by
      rw [code_cond, List.mem_cons, not_or]
      exact ⟨nofun, idle_notMem_codeAll (start + 1) body⟩

/-- Statements are lowered to nothing but instructions. -/
theorem idle_notMem_codeAll (start : Int) : (stmts : List Stmt) → .idle ∉ codeAll start stmts
  | [] => by
      rw [codeAll_nil]
      exact List.not_mem_nil
  | stmt :: rest => by
      rw [codeAll_cons, List.mem_append, not_or]
      exact ⟨idle_notMem_code start stmt, idle_notMem_codeAll _ rest⟩

end

end Stmt

/-- What a text describes can be listed, unless it has more instructions than can be counted in
the digits of an address. -/
theorem Program.exists_listing_of_text {source : List Char} {program : Program}
    (h : ofText source = .ok program) (hsize : program.size < 10 ^ Text.maxNumeralDigits) :
    ∃ lines, program.listing = .ok lines := by
  have hclosed := closed_of_ofText h
  obtain ⟨stmts, -, rfl⟩ := ofText_eq_ok_iff.1 h
  refine exists_listing_iff.2 (forall_worded_iff.2 ⟨?_, fun target htarget => ?_⟩)
  · intro hidle
    exact Stmt.idle_notMem_codeAll 0 stmts (Array.mem_toList_iff.2 hidle)
  · have := hclosed target htarget
    omega

end RiverPuzzle
