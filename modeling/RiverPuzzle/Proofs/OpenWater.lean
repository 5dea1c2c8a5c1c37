import RiverPuzzle.Level.Reader
import RiverPuzzle.Proofs.Solitude
import RiverPuzzle.Result

/-!
# Salmon in open water

Rocks stop a salmon and a finish takes it out, so between two ticks every salmon is
in open water.  This module shows that a drawn level starts that way, and that a
tick of a sound river keeps it so and takes nobody further than to a neighbouring
cell.  The main statement is what can be relied on after any number of ticks, with
any program that can be loaded.
-/

namespace RiverPuzzle

namespace TileMap

variable {tiles : TileMap} {cell : Cell}

theorem Proper.shows_empty (hproper : tiles.Proper) (hrock : tiles.shows cell .rock = false)
    (hfinish : tiles.shows cell .finish = false) : tiles.shows cell .empty = true := by
  obtain ⟨tile, htile⟩ := hproper cell
  rw [shows_of_read htile] at hrock hfinish ⊢
  cases tile with
  | empty => rfl
  | rock => cases hrock
  | finish => cases hfinish

theorem shows_rock_eq_false (hwater : tiles.shows cell .empty = true) :
    tiles.shows cell .rock = false := by
  rw [shows_of_read (read_eq_ok_iff.2 hwater)]
  rfl

theorem advance_near (tiles : TileMap) (cell : Cell) (direction : Direction) :
    tiles.advance cell direction = cell ∨
      cell.neighbor? direction = some (tiles.advance cell direction) := by
  unfold advance
  cases cell.neighbor? direction with
  | none => exact .inl rfl
  | some next =>
      cases hrock : tiles.shows next .rock with
      | true => exact .inl (by simp [hrock])
      | false => exact .inr (by simp [hrock])

theorem advance_not_rock (hcell : tiles.shows cell .rock = false) (direction : Direction) :
    tiles.shows (tiles.advance cell direction) .rock = false := by
  unfold advance
  cases cell.neighbor? direction with
  | none => exact hcell
  | some next =>
      cases hrock : tiles.shows next .rock with
      | true => simpa [hrock] using hcell
      | false => simp [hrock]

end TileMap

namespace Instr

/-- An instruction leads to the cell where the salmon is, or to one beside it. -/
theorem lead_near (instr : Instr) (tiles : TileMap) (cell : Cell) (pc : Int) :
    (instr.lead tiles cell pc).1 = cell ∨
      ∃ direction, cell.neighbor? direction = some (instr.lead tiles cell pc).1 := by
  cases instr with
  | move direction =>
      exact (tiles.advance_near cell direction).imp_right fun hnext => ⟨direction, hnext⟩
  | goto address => exact .inl rfl
  | branch probe otherwise => exact .inl rfl
  | idle => exact .inl rfl

theorem lead_not_rock (instr : Instr) {tiles : TileMap} {cell : Cell} (pc : Int)
    (hcell : tiles.shows cell .rock = false) :
    tiles.shows (instr.lead tiles cell pc).1 .rock = false := by
  cases instr with
  | move direction => exact TileMap.advance_not_rock hcell direction
  | goto address => exact hcell
  | branch probe otherwise => exact hcell
  | idle => exact hcell

end Instr

namespace Level

theorem read_ofMarks (number : Int) (marks : List (List CellMark)) (cell : Cell) :
    (ofMarks number marks).tiles.read cell = .ok (markAt marks cell).ground := by
  rw [TileMap.read_eq_ok_iff]
  simp [ofMarks, TileMap.shows, TileMap.code_ofFn]

theorem exists_marks_of_ofText {text : List Char} {level : Level} (h : ofText text = .ok level) :
    ∃ number marks, level = ofMarks number marks := by
  unfold ofText at h
  simp only at h
  split at h
  · cases h
  · split at h
    · cases h
    · rename_i marks _
      obtain ⟨number, -, rfl⟩ := map_eq_ok_iff.1 h
      exact ⟨number, marks, rfl⟩

/-- Every cell of a drawn level is made of something. -/
theorem proper_of_ofText {text : List Char} {level : Level} (h : ofText text = .ok level) :
    level.tiles.Proper := by
  obtain ⟨number, marks, rfl⟩ := exists_marks_of_ofText h
  exact fun cell => ⟨_, read_ofMarks number marks cell⟩

/-- A salmon is drawn in open water. -/
theorem shows_empty_of_ofText {text : List Char} {level : Level} (h : ofText text = .ok level)
    {start : Cell} (hstart : start ∈ level.starts) : level.tiles.shows start .empty = true := by
  obtain ⟨number, marks, rfl⟩ := exists_marks_of_ofText h
  have hmark : markAt marks start = .start := by
    simpa using (List.mem_filter.1 hstart).2
  have hread := read_ofMarks number marks start
  rw [hmark] at hread
  exact TileMap.read_eq_ok_iff.1 hread

end Level

namespace River

variable {river : River}

/-- The river is sound, and all its salmon are in open water. -/
structure Afloat (river : River) : Prop where
  sound : river.Sound
  water : ∀ salmon ∈ river.salmon, river.tiles.shows salmon.cell .empty = true

/-- A salmon that is left after its turn has followed an instruction, and not to a
finish. -/
theorem Sound.survivor?_inv (hsound : river.Sound) {salmon after : Salmon}
    (hmem : salmon ∈ river.salmon) (hsurvives : river.survivor? salmon = some after) :
    ∃ instr, after.cell = (Instr.lead river.tiles salmon.cell salmon.pc instr).1 ∧
      river.tiles.shows after.cell .finish = false := by
  obtain ⟨hge, hlt⟩ := hsound.inside salmon hmem
  obtain ⟨instr, -, hturn, -⟩ := hsound.turn_eq hge hlt
  rw [survivor?, hturn] at hsurvives
  split at hsurvives
  · cases hsurvives
  · rename_i hfinish
    cases hsurvives
    exact ⟨instr, rfl, Bool.eq_false_iff.2 hfinish⟩

theorem Afloat.drift (h : river.Afloat) : river.drift.Afloat where
  sound := h.sound.drift
  water := by
    intro after hafter
    obtain ⟨salmon, hmem, hsurvives⟩ := List.mem_filterMap.1 hafter
    obtain ⟨instr, hcell, hfinish⟩ := h.sound.survivor?_inv hmem hsurvives
    have hrock := instr.lead_not_rock salmon.pc
      (TileMap.shows_rock_eq_false (h.water salmon hmem))
    rw [← hcell] at hrock
    exact h.sound.proper.shows_empty hrock hfinish

theorem Afloat.iterate_drift (h : river.Afloat) (count : Nat) :
    (River.drift^[count] river).Afloat := by
  induction count with
  | zero => exact h
  | succ count ih =>
      rw [Function.iterate_succ_apply']
      exact ih.drift

theorem afloat_fresh {text : List Char} {level : Level} {program : Program}
    (hlevel : Level.ofText text = .ok level) (hload : load level program = .ok river) :
    river.Afloat := by
  obtain ⟨hsize, hclosed, rfl⟩ := load_eq_ok_iff.1 hload
  refine ⟨sound_fresh (Level.proper_of_ofText hlevel) hsize hclosed, ?_⟩
  intro salmon hmem
  obtain ⟨id, hid, rfl⟩ := List.mem_mapIdx.1 hmem
  exact Level.shows_empty_of_ofText hlevel (List.getElem_mem hid)

/-- A tick gives nobody a number, and leaves the others in their order. -/
theorem ids_drift_sublist (river : River) :
    (river.drift.salmon.map Salmon.id).Sublist (river.salmon.map Salmon.id) := by
  rw [drift]
  induction river.salmon with
  | nil => exact .slnil
  | cons salmon rest ih =>
      cases hsurvives : river.survivor? salmon with
      | none =>
          rw [List.filterMap_cons_none hsurvives]
          exact ih.cons salmon.id
      | some after =>
          rw [List.filterMap_cons_some hsurvives, List.map_cons, List.map_cons,
            survivor?_id hsurvives]
          exact ih.cons_cons salmon.id

/-- A salmon that is left after a tick is where it was before, or beside it. -/
theorem Sound.drift_near (hsound : river.Sound) {after : Salmon}
    (hafter : after ∈ river.drift.salmon) :
    ∃ before ∈ river.salmon, before.id = after.id ∧
      (after.cell = before.cell ∨
        ∃ direction, before.cell.neighbor? direction = some after.cell) := by
  obtain ⟨before, hmem, hsurvives⟩ := List.mem_filterMap.1 hafter
  obtain ⟨instr, hcell, -⟩ := hsound.survivor?_inv hmem hsurvives
  refine ⟨before, hmem, (survivor?_id hsurvives).symm, ?_⟩
  rw [hcell]
  exact instr.lead_near river.tiles before.cell before.pc

/-- After any number of ticks of a drawn level with a program that can be loaded, the
next tick does not fail.  The map and the program are the same as before; every salmon
has an address of the program and is on the board, in open water; they are in the order
of their numbers; and those left after the next tick are where they were or beside it. -/
theorem salmon_stay_afloat (text : List Char) (level : Level) (program : Program)
    (river : River) (count : Nat) (hlevel : Level.ofText text = .ok level)
    (hload : load level program = .ok river) :
    ∃ now next, river.ticks count = .ok now ∧ now.tick = .ok next ∧
      now.tiles = level.tiles ∧ now.program = program ∧
      (∀ salmon ∈ now.salmon, 0 ≤ salmon.pc ∧ salmon.pc < program.size ∧
        Cell.at? salmon.cell.x salmon.cell.y = some salmon.cell ∧
        now.tiles.read salmon.cell = .ok .empty) ∧
      (now.salmon.map Salmon.id).Pairwise (· < ·) ∧
      (next.salmon.map Salmon.id).Sublist (now.salmon.map Salmon.id) ∧
      ∀ after ∈ next.salmon, ∃ before ∈ now.salmon, before.id = after.id ∧
        (after.cell = before.cell ∨
          ∃ direction, before.cell.neighbor? direction = some after.cell) := by
  have hriver := afloat_fresh hlevel hload
  obtain ⟨hsize, hclosed, rfl⟩ := load_eq_ok_iff.1 hload
  have hnow := hriver.iterate_drift count
  have hprogram := iterate_drift_program (fresh level program) count
  refine ⟨_, _, hriver.sound.ticks_eq count, tick_eq_drift hnow.sound.flows,
    iterate_drift_tiles _ count, hprogram, ?_, ?_, ids_drift_sublist _,
    fun after hafter => hnow.sound.drift_near hafter⟩
  · intro salmon hmem
    obtain ⟨hge, hlt⟩ := hnow.sound.inside salmon hmem
    rw [hprogram] at hlt
    have hwater := TileMap.read_eq_ok_iff.2 (hnow.water salmon hmem)
    exact ⟨hge, hlt, Cell.at?_self salmon.cell, hwater⟩
  · rw [List.pairwise_map, iterate_drift_salmon]
    exact pairwise_id_filterMap_fate? count (pairwise_id_hatch level.starts)

end River

/-- A drawn creek: a finish, a salmon beside it, and another one between rocks. -/
def Level.creek : List Char :=
  "fseeeersre\n".toList ++ (List.replicate 19 "eeeeeeeeee\n".toList).flatten ++ "7\n".toList

/-- A program whose branch leads behind its last instruction. -/
def Program.leap : Program :=
  #[.goto 2, .move .right, .branch ⟨.left, .rock⟩ 4, .move .left]

namespace River

/-- In the creek, too, the leap behind the last instruction is one to the first. -/
theorem salmon_stay_afloat_creek :
    ∃ level river now next, Level.ofText Level.creek = .ok level ∧
      load level Program.leap = .ok river ∧
      river.ticks 5 = .ok now ∧ now.tick = .ok next ∧
      ∀ salmon ∈ now.salmon, 0 ≤ salmon.pc ∧ salmon.pc < Program.leap.size ∧
        now.tiles.read salmon.cell = .ok .empty := by
  have hdrawn : (Level.ofText Level.creek).isOk = true := by decide +kernel
  cases hlevel : Level.ofText Level.creek with
  | error fault =>
      rw [hlevel] at hdrawn
      cases hdrawn
  | ok level =>
      have hsize : 0 < Program.leap.size := by decide
      have hload := load_eq_fresh hsize (by decide) level
      obtain ⟨now, next, hticks, htick, -, -, hsalmon, -⟩ :=
        salmon_stay_afloat Level.creek level Program.leap _ 5 hlevel hload
      refine ⟨level, _, now, next, rfl, hload, hticks, htick, fun salmon hmem => ?_⟩
      obtain ⟨hge, hlt, -, hread⟩ := hsalmon salmon hmem
      exact ⟨hge, hlt, hread⟩

end River

end RiverPuzzle
