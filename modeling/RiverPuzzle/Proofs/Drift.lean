import Mathlib.Logic.Function.Iterate
import RiverPuzzle.Proofs.ProperMap

/-!
# Drifting rivers

A tick moves every salmon and then takes those that have arrived out of the list,
one place after the other, the last place first.  This module shows that as long
as nobody is stuck the outcome is that of every salmon by itself, in order, and
that in a sound river, where all addresses are those of the program and all bytes
stand for tiles, nobody is ever stuck.  The main statement turns any number of
ticks of a sound river into the iteration of a total function.
-/

namespace RiverPuzzle

/-- The salmon that is still in the river after a turn. -/
def Turn.survivor? : Turn → Option Salmon
  | .swims salmon => some salmon
  | _ => none

namespace River

variable {river : River}

/-- What is left of a salmon after its turn. -/
def survivor? (river : River) (salmon : Salmon) : Option Salmon :=
  (river.turn salmon).survivor?

/-- What the instruction leaves of a salmon, on a map whose bytes all stand for tiles. -/
theorem survivor?_eq (hproper : river.tiles.Proper) {salmon : Salmon} {instr : Instr}
    (hinstr : river.program.at? salmon.pc = some instr) :
    river.survivor? salmon = if river.tiles.shows (river.led salmon instr).cell .finish
      then none else some (river.led salmon instr) := by
  rw [survivor?, turn_eq hproper hinstr]
  split <;> rfl

/-- No turn of these salmon fails. -/
def Flows (river : River) (salmon : List Salmon) : Prop :=
  ∀ one ∈ salmon, ∀ left fault, river.turn one ≠ .stuck left fault

theorem takeOut_nil (salmon : List Salmon) : takeOut [] salmon = salmon := rfl

theorem takeOut_cons (place : Nat) (places : List Nat) (salmon : List Salmon) :
    takeOut (place :: places) salmon = (takeOut places salmon).eraseIdx place := by
  simp [takeOut, List.foldl_append]

/-- A round that goes well yields places whose salmon, once taken out, leave the
survivors in order.  The salmon of `before` have had their turns already. -/
theorem round_takeOut {salmon : List Salmon} (hflows : river.Flows salmon)
    (before : List Salmon) :
    ∃ moved arrived, river.round before.length salmon = .ok (moved, arrived) ∧
      takeOut arrived (before ++ moved) = before ++ salmon.filterMap river.survivor? := by
  induction salmon generalizing before with
  | nil => exact ⟨[], [], rfl, by simp [takeOut_nil]⟩
  | cons one rest ih =>
      have hrest : river.Flows rest := fun other hother =>
        hflows other (List.mem_cons_of_mem one hother)
      cases hturn : river.turn one with
      | stuck left fault => exact absurd hturn (hflows one List.mem_cons_self left fault)
      | swims after =>
          obtain ⟨moved, arrived, hround, htake⟩ := ih hrest (before ++ [after])
          rw [List.length_append, List.length_singleton] at hround
          refine ⟨after :: moved, arrived, ?_, ?_⟩
          · simp [round, hturn, hround]
          · simpa [survivor?, hturn, Turn.survivor?] using htake
      | arrives after =>
          obtain ⟨moved, arrived, hround, htake⟩ := ih hrest (before ++ [after])
          rw [List.length_append, List.length_singleton] at hround
          refine ⟨after :: moved, before.length :: arrived, ?_, ?_⟩
          · simp [round, hturn, hround]
          · -- The places behind this one are empty by now, so its own has not moved.
            rw [takeOut_cons, List.append_cons, htake]
            simp [survivor?, hturn, Turn.survivor?, List.eraseIdx_append_of_length_le]

/-- The river after a tick in which nobody is stuck. -/
def drift (river : River) : River :=
  { river with salmon := river.salmon.filterMap river.survivor? }

theorem tick_eq_drift (hflows : river.Flows river.salmon) : river.tick = .ok river.drift := by
  obtain ⟨moved, arrived, hround, htake⟩ := round_takeOut hflows []
  rw [List.length_nil] at hround
  rw [List.nil_append, List.nil_append] at htake
  simp [tick, hround, htake, drift]

/-- The river after a number of ticks, one after the other. -/
def ticks (river : River) : Nat → Except Interruption River
  | 0 => .ok river
  | count + 1 => (river.ticks count).bind tick

/-- All bytes stand for tiles, all jumps stay in the program, and so do the
salmon. -/
structure Sound (river : River) : Prop where
  proper : river.tiles.Proper
  closed : river.program.Closed
  inside : ∀ salmon ∈ river.salmon, 0 ≤ salmon.pc ∧ salmon.pc < river.program.size

end River

namespace Program

variable {program : Program}

theorem isEmpty_eq_false_iff : program.isEmpty = false ↔ 0 < program.size := by
  simp [Array.isEmpty, Nat.pos_iff_ne_zero]

theorem at?_of_lt {address : Int} (hge : 0 ≤ address) (hlt : address < program.size) :
    ∃ instr, program.at? address = some instr := by
  have hbound : address.toNat < program.size := by omega
  refine ⟨program[address.toNat], ?_⟩
  rw [at?, if_pos hge, Array.getElem?_eq_getElem hbound]

theorem mem_of_at? {address : Int} {instr : Instr} (h : program.at? address = some instr) :
    instr ∈ program := by
  unfold at? at h
  split at h
  · exact Array.mem_of_getElem? h
  · split at h
    · exact Array.mem_of_getElem? h
    · cases h

theorem Closed.target_le (hclosed : program.Closed) {instr : Instr} (hmem : instr ∈ program)
    {target : Int} (htarget : instr.target? = some target) :
    0 ≤ target ∧ target ≤ program.size := by
  apply hclosed
  exact List.mem_filterMap.2 ⟨instr, Array.mem_def.1 hmem, htarget⟩

/-- The end of the program counts as its beginning. -/
theorem wrap_bounds {next : Int} (hge : 0 ≤ next) (hsize : 0 < program.size) :
    0 ≤ program.wrap next ∧ program.wrap next < program.size := by
  unfold wrap
  split <;> omega

end Program

/-- An instruction of a closed program leads to an address of the program, or just
behind the last one. -/
theorem Instr.lead_bounds {program : Program} (hclosed : program.Closed) {instr : Instr}
    (hmem : instr ∈ program) (tiles : TileMap) (cell : Cell) {pc : Int}
    (hge : 0 ≤ pc) (hlt : pc < program.size) :
    0 ≤ (instr.lead tiles cell pc).2 ∧ (instr.lead tiles cell pc).2 ≤ program.size := by
  cases instr with
  | move direction =>
      simp only [lead]
      omega
  | goto address => exact hclosed.target_le hmem rfl
  | branch probe otherwise =>
      have htarget : 0 ≤ otherwise ∧ otherwise ≤ program.size := hclosed.target_le hmem rfl
      simp only [lead]
      split <;> omega
  | idle =>
      simp only [lead]
      omega

namespace River

variable {river : River}

/-- The turn of a salmon whose address is one of the program, and what the turn
leaves of it. -/
theorem Sound.turn_eq (hsound : river.Sound) {salmon : Salmon}
    (hge : 0 ≤ salmon.pc) (hlt : salmon.pc < river.program.size) :
    ∃ instr, river.program.at? salmon.pc = some instr ∧
      river.turn salmon = (if river.tiles.shows (river.led salmon instr).cell .finish
        then .arrives (river.led salmon instr) else .swims (river.led salmon instr)) ∧
      0 ≤ (river.led salmon instr).pc ∧ (river.led salmon instr).pc < river.program.size := by
  obtain ⟨instr, hinstr⟩ := Program.at?_of_lt hge hlt
  refine ⟨instr, hinstr, River.turn_eq hsound.proper hinstr, ?_⟩
  have hlead := Instr.lead_bounds hsound.closed (Program.mem_of_at? hinstr)
    river.tiles salmon.cell hge hlt
  exact Program.wrap_bounds hlead.1 (by omega)

theorem Sound.flows (hsound : river.Sound) : river.Flows river.salmon := by
  intro one hone left fault hturn
  obtain ⟨hge, hlt⟩ := hsound.inside one hone
  obtain ⟨instr, -, heq, -⟩ := hsound.turn_eq hge hlt
  rw [heq] at hturn
  split at hturn <;> cases hturn

theorem Sound.drift (hsound : river.Sound) : river.drift.Sound where
  proper := hsound.proper
  closed := hsound.closed
  inside := by
    intro after hafter
    obtain ⟨one, hone, hsurvives⟩ := List.mem_filterMap.1 hafter
    obtain ⟨hge, hlt⟩ := hsound.inside one hone
    obtain ⟨instr, -, heq, hbounds⟩ := hsound.turn_eq hge hlt
    rw [survivor?, heq] at hsurvives
    split at hsurvives <;> cases hsurvives
    exact hbounds

/-- A turn asks the river for its tiles and its program only. -/
theorem turn_congr {other : River} (htiles : other.tiles = river.tiles)
    (hprogram : other.program = river.program) (salmon : Salmon) :
    other.turn salmon = river.turn salmon := by
  obtain ⟨tiles, crowd, program⟩ := other
  subst htiles hprogram
  rfl

theorem Sound.iterate_drift (hsound : river.Sound) (count : Nat) :
    (River.drift^[count] river).Sound := by
  induction count with
  | zero => exact hsound
  | succ count ih =>
      rw [Function.iterate_succ_apply']
      exact ih.drift

theorem iterate_drift_tiles (river : River) (count : Nat) :
    (drift^[count] river).tiles = river.tiles := by
  induction count with
  | zero => rfl
  | succ count ih =>
      rw [Function.iterate_succ_apply']
      exact ih

theorem iterate_drift_program (river : River) (count : Nat) :
    (drift^[count] river).program = river.program := by
  induction count with
  | zero => rfl
  | succ count ih =>
      rw [Function.iterate_succ_apply']
      exact ih

/-- What is left of a salmon after a number of ticks. -/
def fate? (river : River) : Nat → Salmon → Option Salmon
  | 0, salmon => some salmon
  | count + 1, salmon => (river.fate? count salmon).bind river.survivor?

/-- Every salmon has its own fate, whoever else is in the river. -/
theorem iterate_drift_salmon (river : River) (count : Nat) :
    (drift^[count] river).salmon = river.salmon.filterMap (river.fate? count) := by
  induction count with
  | zero => simp [fate?]
  | succ count ih =>
      have hsame : (drift^[count] river).survivor? = river.survivor? := by
        funext salmon
        rw [survivor?, turn_congr (iterate_drift_tiles river count)
          (iterate_drift_program river count), survivor?]
      rw [Function.iterate_succ_apply', drift, ih, hsame, List.filterMap_filterMap]
      rfl

/-- No tick of a sound river fails, and each is a drift. -/
theorem Sound.ticks_eq (hsound : river.Sound) (count : Nat) :
    river.ticks count = .ok (River.drift^[count] river) := by
  induction count with
  | zero => rfl
  | succ count ih =>
      rw [ticks, ih, Function.iterate_succ_apply']
      exact tick_eq_drift (hsound.iterate_drift count).flows

/-- A closed program with an instruction can always be put into a river. -/
theorem load_eq_fresh {program : Program} (hsize : 0 < program.size)
    (hclosed : program.Closed) (level : Level) :
    load level program = .ok (fresh level program) := by
  have hempty := Program.isEmpty_eq_false_iff.2 hsize
  rw [load, hempty, if_neg Bool.false_ne_true, if_pos hclosed]

theorem load_eq_ok_iff {level : Level} {program : Program} :
    load level program = .ok river ↔
      0 < program.size ∧ program.Closed ∧ river = fresh level program := by
  constructor
  · intro h
    unfold load at h
    split at h
    · cases h
    · split at h
      · rename_i hempty hclosed
        cases h
        have hsize := Program.isEmpty_eq_false_iff.1 (Bool.eq_false_iff.2 hempty)
        exact ⟨hsize, hclosed, rfl⟩
      · cases h
  · rintro ⟨hsize, hclosed, rfl⟩
    exact load_eq_fresh hsize hclosed level

theorem sound_fresh {level : Level} {program : Program} (hproper : level.tiles.Proper)
    (hsize : 0 < program.size) (hclosed : program.Closed) : (fresh level program).Sound where
  proper := hproper
  closed := hclosed
  inside := by
    intro salmon hsalmon
    obtain ⟨id, hid, rfl⟩ := List.mem_mapIdx.1 hsalmon
    simp only [fresh]
    omega

end River

end RiverPuzzle
