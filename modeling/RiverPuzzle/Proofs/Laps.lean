import RiverPuzzle.Proofs.Joining

/-!
# Programs in laps

A text that is written down several times in a row is a program in laps: each lap has the
instructions of the text, with jumps within the lap, and at the end of a lap the next one
begins, or the first one again.  The main statement says that the salmon do not notice: after
any number of ticks they are where they are with the text written down once.
-/

namespace RiverPuzzle

/-- The salmon as it is when the laps are not counted. -/
def Salmon.onLap (size : Nat) (salmon : Salmon) : Salmon :=
  { salmon with pc := salmon.pc % size }

namespace Program

variable {program : Program} {copies lap pc : Nat}

/-- The program several times in a row. -/
def laps (program : Program) : (copies : Nat) → Program
  | 0 => #[]
  | copies + 1 => program ++ (program.laps copies).map (Instr.shift program.size)

theorem size_laps (program : Program) (copies : Nat) :
    (program.laps copies).size = copies * program.size := by
  induction copies with
  | zero => simp [laps]
  | succ copies ih => simp [laps, ih, Nat.add_one_mul, Nat.add_comm]

theorem at?_natCast (program : Program) (address : Nat) :
    program.at? (address : Int) = program[address]? := by
  simp [at?]

/-- Each lap has the instructions of the program, with jumps within the lap. -/
theorem at?_laps (hlap : lap < copies) (hpc : pc < program.size) :
    (program.laps copies).at? ((pc + lap * program.size : Nat) : Int) =
      (program.at? (pc : Int)).map (Instr.shift (lap * program.size : Nat)) := by
  induction copies generalizing lap with
  | zero => omega
  | succ copies ih =>
      simp only [at?_natCast] at ih ⊢
      rw [laps]
      by_cases hfirst : lap = 0
      · subst hfirst
        have hin : pc + 0 * program.size < program.size := by omega
        rw [Array.getElem?_append_left hin]
        simp
      · obtain ⟨before, rfl⟩ := Nat.exists_eq_add_one_of_ne_zero hfirst
        have hbehind : pc + (before + 1) * program.size =
            program.size + (pc + before * program.size) := by
          rw [Nat.add_one_mul]
          omega
        have hshift (instr : Instr) :
            (instr.shift (before * program.size : Nat)).shift program.size =
              instr.shift ((before + 1) * program.size : Nat) := by
          rw [Instr.shift_shift, ← Int.natCast_add, Nat.add_one_mul]
        rw [hbehind, Array.getElem?_append_right (Nat.le_add_right _ _), Nat.add_sub_cancel_left,
          Array.getElem?_map, ih (by omega), Option.map_map]
        congr 1
        funext instr
        exact hshift instr

/-- The end of a lap is the beginning of another one. -/
theorem wrap_laps {next : Int} (hlap : lap < copies) (hge : 0 ≤ next)
    (hle : next ≤ program.size) :
    (program.laps copies).wrap (next + (lap * program.size : Nat)) % program.size =
      program.wrap next := by
  have hlaps : (lap + 1) * program.size ≤ copies * program.size :=
    Nat.mul_le_mul_right program.size hlap
  rw [Nat.add_one_mul] at hlaps
  unfold wrap
  rw [size_laps]
  by_cases hinside : next < program.size
  · have hin : next + (lap * program.size : Nat) < (copies * program.size : Nat) := by omega
    rw [if_pos hin, if_pos hinside, Int.natCast_mul, Int.add_mul_emod_self_right,
      Int.emod_eq_of_lt hge hinside]
  · have hend : next = program.size := by omega
    rw [if_neg hinside]
    split
    · rw [hend, Int.natCast_mul, Int.add_mul_emod_self_right, Int.emod_self]
    · rfl

/-- Every address of a program in laps is one of the program, on some lap. -/
theorem exists_lap {address : Int} (hge : 0 ≤ address)
    (hlt : address < (program.laps copies).size) :
    ∃ pc lap : Nat, pc < program.size ∧ lap < copies ∧
      address = (pc + lap * program.size : Nat) := by
  obtain ⟨place, rfl⟩ := Int.eq_ofNat_of_zero_le hge
  rw [size_laps] at hlt
  have hplace : place < copies * program.size := Int.ofNat_lt.1 hlt
  have hsize : 0 < program.size := Nat.pos_of_mul_pos_left (Nat.zero_lt_of_lt hplace)
  refine ⟨place % program.size, place / program.size, Nat.mod_lt place hsize, ?_, ?_⟩
  · exact Nat.div_lt_of_lt_mul (Nat.mul_comm copies program.size ▸ hplace)
  · rw [Nat.mul_comm, Nat.mod_add_div]

/-- A text several times in a row is the program of the text in laps. -/
theorem ofText_laps {source : List Char} (hcompile : ofText source = .ok program)
    (copies : Nat) :
    ofText (List.replicate copies source).flatten = .ok (program.laps copies) := by
  induction copies with
  | zero => exact ofText_eq_ok_iff.2 ⟨[], parse_eq_ok_iff.2 Reader.readFrom_nil, rfl⟩
  | succ copies ih =>
      rw [List.replicate_succ, List.flatten_cons]
      exact ofText_append hcompile ih

end Program

namespace River

variable {program : Program} {copies : Nat} {many once : River}

/-- One river has the program in laps and the other one has it once, and apart from the laps
their salmon are the same. -/
structure Laps (program : Program) (copies : Nat) (many once : River) : Prop where
  tiles : many.tiles = once.tiles
  inLaps : many.program = program.laps copies
  single : once.program = program
  salmon : many.salmon.map (Salmon.onLap program.size) = once.salmon

namespace Laps

/-- An instruction does on each lap what it does on the only one. -/
theorem led (h : Laps program copies many once) {salmon : Salmon} {lap pc : Nat}
    (hlap : lap < copies) (hpc : salmon.pc = (pc + lap * program.size : Nat)) {instr : Instr}
    (hge : 0 ≤ (instr.lead once.tiles salmon.cell pc).2)
    (hle : (instr.lead once.tiles salmon.cell pc).2 ≤ program.size)
    (hmod : salmon.pc % program.size = pc) :
    (many.led salmon (instr.shift (lap * program.size : Nat))).onLap program.size =
      once.led (salmon.onLap program.size) instr := by
  have hlead := instr.lead_shift once.tiles salmon.cell pc (lap * program.size : Nat)
  rw [← Int.natCast_add, ← hpc] at hlead
  simp only [River.led, Salmon.onLap, h.tiles, h.inLaps, h.single, hmod, hlead]
  rw [Program.wrap_laps hlap hge hle]

/-- A turn does not notice the laps. -/
theorem survivor? (h : Laps program copies many once) (hproper : once.tiles.Proper)
    (hclosed : program.Closed) {salmon : Salmon} (hge : 0 ≤ salmon.pc)
    (hlt : salmon.pc < many.program.size) :
    (many.survivor? salmon).map (Salmon.onLap program.size) =
      once.survivor? (salmon.onLap program.size) := by
  rw [h.inLaps] at hlt
  obtain ⟨pc, lap, hpc, hlap, haddress⟩ := Program.exists_lap hge hlt
  have hmod : salmon.pc % program.size = pc := by
    rw [haddress, ← Int.natCast_emod, Nat.add_mul_mod_self_right, Nat.mod_eq_of_lt hpc]
  obtain ⟨instr, hinstr⟩ := Program.at?_of_lt (Int.natCast_nonneg pc) (Int.ofNat_lt.2 hpc)
  have hmany : many.program.at? salmon.pc = some (instr.shift (lap * program.size : Nat)) := by
    rw [h.inLaps, haddress, Program.at?_laps hlap hpc, hinstr, Option.map_some]
  have honce : once.program.at? (salmon.onLap program.size).pc = some instr := by
    rw [h.single, Salmon.onLap, hmod, hinstr]
  obtain ⟨hnext, hend⟩ := Instr.lead_bounds hclosed (Program.mem_of_at? hinstr) once.tiles
    salmon.cell (Int.natCast_nonneg pc) (Int.ofNat_lt.2 hpc)
  have hled := h.led hlap haddress hnext hend hmod
  have hcell : (many.led salmon (instr.shift (lap * program.size : Nat))).cell =
      (once.led (salmon.onLap program.size) instr).cell := by
    rw [← hled, Salmon.onLap]
  rw [River.survivor?_eq (h.tiles ▸ hproper) hmany, River.survivor?_eq hproper honce, hcell,
    h.tiles]
  split
  · rfl
  · exact congrArg some hled

/-- A tick does not notice the laps. -/
theorem drift (h : Laps program copies many once) (hmany : many.Sound)
    (hclosed : program.Closed) : Laps program copies many.drift once.drift where
  tiles := h.tiles
  inLaps := h.inLaps
  single := h.single
  salmon := by
    simp only [River.drift]
    rw [List.map_filterMap, ← h.salmon, List.filterMap_map]
    apply List.filterMap_congr
    intro salmon hmem
    obtain ⟨hge, hlt⟩ := hmany.inside salmon hmem
    exact h.survivor? (h.tiles ▸ hmany.proper) hclosed hge hlt

theorem iterate_drift (h : Laps program copies many once) (hmany : many.Sound)
    (hclosed : program.Closed) (count : Nat) :
    Laps program copies (River.drift^[count] many) (River.drift^[count] once) := by
  induction count with
  | zero => exact h
  | succ count ih =>
      rw [Function.iterate_succ_apply', Function.iterate_succ_apply']
      exact ih.drift (hmany.iterate_drift count) hclosed

end Laps

theorem laps_fresh (level : Level) (program : Program) (copies : Nat) :
    Laps program copies (fresh level (program.laps copies)) (fresh level program) where
  tiles := rfl
  inLaps := rfl
  single := rfl
  salmon := by
    apply List.ext_getElem
    · simp [fresh, hatch]
    · simp [fresh, hatch, Salmon.onLap]

/-- A program can be loaded when its text is written down several times as it can when it is
written down once.  After any number of ticks the salmon in the two rivers have the same
numbers and are in the same cells, in the same order, and their addresses differ by whole laps. -/
theorem salmon_swim_laps (level : Level) (source : List Char) (program : Program)
    (copies count : Nat) (hproper : level.tiles.Proper)
    (hcompile : Program.ofText source = .ok program) (hempty : program.isEmpty = false)
    (hcopies : 1 ≤ copies) :
    ∃ (laps : Program) (many once after now : River),
      Program.ofText (List.replicate copies source).flatten = .ok laps ∧
      load level laps = .ok many ∧ load level program = .ok once ∧
      many.ticks count = .ok after ∧ once.ticks count = .ok now ∧
      after.salmon.map (Salmon.onLap program.size) = now.salmon := by
  have hlaps := Program.ofText_laps hcompile copies
  have hclosed := Program.closed_of_ofText hcompile
  have hsize := Program.isEmpty_eq_false_iff.1 hempty
  have hlong : 0 < (program.laps copies).size := by
    rw [Program.size_laps]
    exact Nat.mul_pos hcopies hsize
  have hsound := sound_fresh hproper hlong (Program.closed_of_ofText hlaps)
  refine ⟨_, _, _, _, _, hlaps, load_eq_fresh hlong (Program.closed_of_ofText hlaps) level,
    load_eq_fresh hsize hclosed level, hsound.ticks_eq count,
    (sound_fresh hproper hsize hclosed).ticks_eq count, ?_⟩
  exact ((laps_fresh level program copies).iterate_drift hsound hclosed count).salmon

/-- In the pond a guarded block is skipped on every lap, and nobody notices which one it is. -/
theorem salmon_swim_laps_pond :
    Level.pond.tiles.Proper ∧
      Program.ofText "if up rock\x7bmove up;\x7d".toList =
        .ok #[.branch ⟨.up, .rock⟩ 2, .move .up] ∧
      (#[.branch ⟨.up, .rock⟩ 2, .move .up] : Program).isEmpty = false ∧ 1 ≤ 3 ∧
      ∃ (laps : Program) (many once after now : River),
        Program.ofText (List.replicate 3 "if up rock\x7bmove up;\x7d".toList).flatten = .ok laps ∧
        load Level.pond laps = .ok many ∧
        load Level.pond #[.branch ⟨.up, .rock⟩ 2, .move .up] = .ok once ∧
        many.ticks 2 = .ok after ∧ once.ticks 2 = .ok now ∧
        after.salmon.map (Salmon.onLap 2) = now.salmon := by
  have hcompile : Program.ofText "if up rock\x7bmove up;\x7d".toList =
      .ok #[.branch ⟨.up, .rock⟩ 2, .move .up] := by decide +kernel
  exact ⟨Level.pond_proper, hcompile, rfl, by decide,
    salmon_swim_laps Level.pond _ _ 3 2 Level.pond_proper hcompile rfl (by decide)⟩

end River

end RiverPuzzle
