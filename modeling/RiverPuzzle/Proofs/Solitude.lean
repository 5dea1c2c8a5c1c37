import Mathlib.Data.List.Basic
import RiverPuzzle.Proofs.Drift

/-!
# Salmon never meet

A level with many starts is played as the levels with one of its starts each,
side by side.  The main statement puts the salmon of the whole river together
from those of the rivers with a single salmon, in the order of the starts.
-/

namespace RiverPuzzle

/-- The salmon with another number. -/
def Salmon.renumber (id : Int) (salmon : Salmon) : Salmon :=
  { salmon with id := id }

/-- The level with one start. -/
def Level.alone (level : Level) (start : Cell) : Level :=
  { level with starts := [start] }

namespace River

variable {river : River}

theorem obey_renumber (river : River) (salmon : Salmon) (id : Int) :
    river.obey (salmon.renumber id) = (river.obey salmon).map (Salmon.renumber id) := by
  have hfollow (instr : Instr) :
      river.follow (salmon.renumber id) instr = river.follow salmon instr := by
    cases instr <;> rfl
  have hpc : (salmon.renumber id).pc = salmon.pc := rfl
  simp only [obey, hfollow, hpc]
  cases river.program.fetch salmon.pc with
  | error fault => rfl
  | ok instr =>
      cases hnext : river.follow salmon instr with
      | error fault => simp [hnext, Except.map]
      | ok next => simp [hnext, Except.map, Salmon.renumber]

/-- A number never decides what happens to a salmon. -/
theorem survivor?_renumber (river : River) (salmon : Salmon) (id : Int) :
    river.survivor? (salmon.renumber id) = (river.survivor? salmon).map (Salmon.renumber id) := by
  simp only [survivor?, turn, obey_renumber]
  cases river.obey salmon with
  | error fault => rfl
  | ok moved =>
      have hcell : (moved.renumber id).cell = moved.cell := rfl
      simp only [Except.map, hcell]
      cases river.tiles.read moved.cell with
      | error fault => rfl
      | ok tile => cases tile <;> rfl

theorem fate?_renumber (river : River) (count : Nat) (salmon : Salmon) (id : Int) :
    river.fate? count (salmon.renumber id) =
      (river.fate? count salmon).map (Salmon.renumber id) := by
  induction count with
  | zero => rfl
  | succ count ih =>
      rw [fate?, ih, fate?]
      cases river.fate? count salmon with
      | none => rfl
      | some after => exact survivor?_renumber river after id

theorem survivor?_id {salmon after : Salmon} (h : river.survivor? salmon = some after) :
    after.id = salmon.id := by
  -- Giving the salmon its own number again changes nothing, so it comes out with that number.
  have hsame := survivor?_renumber river salmon salmon.id
  rw [show salmon.renumber salmon.id = salmon from rfl, h, Option.map_some] at hsame
  have hafter : after = after.renumber salmon.id := Option.some.inj hsame
  rw [hafter]
  rfl

theorem fate?_id {count : Nat} {salmon after : Salmon}
    (h : river.fate? count salmon = some after) : after.id = salmon.id := by
  induction count generalizing after with
  | zero =>
      cases h
      rfl
  | succ count ih =>
      obtain ⟨before, hbefore, hafter⟩ := Option.bind_eq_some_iff.1 h
      rw [survivor?_id hafter, ih hbefore]

/-- Fates keep the numbers of a river in order. -/
theorem pairwise_id_filterMap_fate? {salmon : List Salmon} (count : Nat)
    (h : salmon.Pairwise fun one other => one.id < other.id) :
    (salmon.filterMap (river.fate? count)).Pairwise fun one other => one.id < other.id := by
  refine List.Pairwise.filterMap _ ?_ h
  intro one other hlt after hafter later hlater
  rw [fate?_id hafter, fate?_id hlater]
  exact hlt

theorem pairwise_id_hatch (starts : List Cell) :
    (hatch starts).Pairwise fun one other => one.id < other.id := by
  rw [List.pairwise_iff_getElem]
  intro i j hi hj hlt
  simp only [hatch, List.getElem_mapIdx]
  omega

/-- In a list in the order of the numbers a number says which salmon is meant. -/
theorem filter_id_of_ordered {crowd : List Salmon} {salmon : Salmon}
    (hordered : crowd.Pairwise fun one other => one.id < other.id) (hmem : salmon ∈ crowd) :
    crowd.filter (fun one => one.id = salmon.id) = [salmon] := by
  induction crowd with
  | nil => simp at hmem
  | cons first rest ih =>
      obtain ⟨hfirst, hrest⟩ := List.pairwise_cons.1 hordered
      rcases List.mem_cons.1 hmem with heq | hmem
      · subst heq
        have hnone : rest.filter (fun one => one.id = salmon.id) = [] := by
          apply List.filter_eq_nil_iff.2
          intro other hother
          have hlt := hfirst other hother
          simp only [decide_eq_true_eq]
          omega
        simp [hnone]
      · have hne : first.id ≠ salmon.id := Int.ne_of_lt (hfirst salmon hmem)
        simp [hne, ih hrest hmem]

/-- After any number of ticks the salmon with a number is what is left of the one that had the
number before. -/
theorem filter_id_iterate_drift {salmon : Salmon}
    (hordered : river.salmon.Pairwise fun one other => one.id < other.id)
    (hmem : salmon ∈ river.salmon) (count : Nat) :
    (drift^[count] river).salmon.filter (fun one => one.id = salmon.id) =
      (river.fate? count salmon).toList := by
  have hkept (one : Salmon) : (river.fate? count one).filter (fun after => after.id = salmon.id) =
      if one.id = salmon.id then river.fate? count one else none := by
    cases hfate : river.fate? count one with
    | none => simp
    | some after => simp [Option.filter, fate?_id hfate]
  calc (drift^[count] river).salmon.filter (fun one => one.id = salmon.id)
      = (river.salmon.filter fun one => one.id = salmon.id).filterMap (river.fate? count) := by
        rw [iterate_drift_salmon, List.filter_filterMap, List.filterMap_filter]
        simp only [hkept, decide_eq_true_eq]
    _ = (river.fate? count salmon).toList := by
        rw [filter_id_of_ordered hordered hmem]
        cases hfate : river.fate? count salmon <;> simp [hfate]

theorem iterate_drift_fresh_salmon (level : Level) (program : Program) (count : Nat) :
    (drift^[count] (fresh level program)).salmon =
      (level.starts.mapIdx fun id start =>
        ((fresh level program).fate? count ⟨id, start, 0⟩).toList).flatten := by
  rw [iterate_drift_salmon, List.filterMap_eq_flatMap_toList, List.flatMap_def]
  congr 1
  apply List.ext_getElem
  · simp [fresh, hatch]
  · simp [fresh, hatch]

theorem fate?_fresh_alone (level : Level) (start : Cell) (program : Program) (count : Nat) :
    (fresh (level.alone start) program).fate? count = (fresh level program).fate? count := by
  induction count with
  | zero => rfl
  | succ count ih =>
      funext salmon
      rw [fate?, ih, fate?]
      rfl

/-- After any number of ticks the river of a level holds, in the order of the
starts, what the rivers with one of the starts each hold, and it is complete
exactly when all of those are. -/
theorem salmon_never_meet (level : Level) (program : Program) (river : River) (count : Nat)
    (hproper : level.tiles.Proper) (hload : load level program = .ok river) :
    ∃ (after : River) (single : Cell → River),
      river.ticks count = .ok after ∧
      (∀ start ∈ level.starts, ∃ early, load (level.alone start) program = .ok early ∧
        early.ticks count = .ok (single start)) ∧
      after.salmon = (level.starts.mapIdx fun id start =>
        (single start).salmon.map (Salmon.renumber id)).flatten ∧
      (after.salmon.Pairwise fun one other => one.id < other.id) ∧
      (after.isComplete = true ↔ ∀ start ∈ level.starts, (single start).isComplete = true) := by
  obtain ⟨hsize, hclosed, rfl⟩ := load_eq_ok_iff.1 hload
  have halone (start : Cell) (id : Nat) :
      ((fresh level program).fate? count ⟨id, start, 0⟩).toList =
        (drift^[count] (fresh (level.alone start) program)).salmon.map (Salmon.renumber id) := by
    have hnumber : (⟨id, start, 0⟩ : Salmon) = Salmon.renumber id ⟨0, start, 0⟩ := rfl
    have hhatch : (fresh (level.alone start) program).salmon = [⟨0, start, 0⟩] := rfl
    rw [hnumber, fate?_renumber, iterate_drift_salmon, hhatch, fate?_fresh_alone]
    cases hfate : (fresh level program).fate? count ⟨0, start, 0⟩ with
    | none => simp [hfate]
    | some after => simp [hfate]
  have hsalmon : (drift^[count] (fresh level program)).salmon =
      (level.starts.mapIdx fun id start =>
        (drift^[count] (fresh (level.alone start) program)).salmon.map
          (Salmon.renumber id)).flatten := by
    rw [iterate_drift_fresh_salmon]
    simp only [halone]
  refine ⟨drift^[count] (fresh level program),
    fun start => drift^[count] (fresh (level.alone start) program),
    (sound_fresh hproper hsize hclosed).ticks_eq count, ?_, hsalmon, ?_, ?_⟩
  · intro start _
    have hsame : (level.alone start).tiles.Proper := hproper
    exact ⟨fresh (level.alone start) program, load_eq_fresh hsize hclosed (level.alone start),
      (sound_fresh hsame hsize hclosed).ticks_eq count⟩
  · rw [iterate_drift_salmon]
    exact pairwise_id_filterMap_fate? count (pairwise_id_hatch level.starts)
  · simp only [isComplete, List.isEmpty_iff, hsalmon, List.flatten_eq_nil_iff]
    constructor
    · intro hall start hstart
      obtain ⟨id, hid, rfl⟩ := List.getElem_of_mem hstart
      have hnil := hall _ (List.mem_mapIdx.2 ⟨id, hid, rfl⟩)
      exact List.map_eq_nil_iff.1 hnil
    · intro hall salmon hmem
      obtain ⟨id, hid, rfl⟩ := List.mem_mapIdx.1 hmem
      rw [hall _ (List.getElem_mem hid), List.map_nil]

/-- The pond with three salmon, put together from three ponds with one. -/
theorem salmon_never_meet_pond :
    Level.pond.tiles.Proper ∧
      ∃ river, load Level.pond #[.move .left, .goto 0] = .ok river ∧
        ∃ (after : River) (single : Cell → River), river.ticks 1 = .ok after ∧
          after.salmon =
            (single ⟨1, 3⟩).salmon.map (Salmon.renumber 0) ++
              ((single ⟨1, 3⟩).salmon.map (Salmon.renumber 1) ++
                (single ⟨5, 5⟩).salmon.map (Salmon.renumber 2)) := by
  have hload : load Level.pond #[.move .left, .goto 0] = .ok (fresh Level.pond _) :=
    load_eq_fresh (by decide) (by decide) Level.pond
  obtain ⟨after, single, hticks, -, hsalmon, -, -⟩ :=
    salmon_never_meet Level.pond #[.move .left, .goto 0] _ 1 Level.pond_proper hload
  refine ⟨Level.pond_proper, _, hload, after, single, hticks, ?_⟩
  simpa [Level.pond] using hsalmon

end River

end RiverPuzzle
