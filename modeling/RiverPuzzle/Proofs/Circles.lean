import Mathlib.Data.Finset.Prod
import RiverPuzzle.Proofs.FinishedRun
import RiverPuzzle.Proofs.Solitude

/-!
# Salmon in circles

What becomes of a salmon hangs on its cell and its address alone.  There are two hundred
cells, so a salmon that is left after two hundred ticks for each instruction has been in
one state twice, and goes in circles for ever.  The main statement draws the consequence
for runs: a cap of that many ticks decides whether any cap is enough.
-/

namespace RiverPuzzle

/-- The column and the row of a salmon, and the address of its next instruction. -/
def Salmon.spot (salmon : Salmon) : Nat × Nat × Nat :=
  (salmon.cell.x, salmon.cell.y, salmon.pc.toNat)

theorem Salmon.eq_of_spot {one other : Salmon} (hspot : one.spot = other.spot)
    (hid : one.id = other.id) (hone : 0 ≤ one.pc) (hother : 0 ≤ other.pc) : one = other := by
  obtain ⟨id, ⟨x, y⟩, pc⟩ := one
  obtain ⟨id', ⟨x', y'⟩, pc'⟩ := other
  simp only [spot, Prod.mk.injEq] at hspot hid hone hother
  have hx : x = x' := Fin.ext hspot.1
  have hy : y = y' := Fin.ext hspot.2.1
  have hpc : pc = pc' := by omega
  rw [hid, hx, hy, hpc]

namespace River

variable {river : River} {salmon : Salmon} {early late : Nat}

theorem mem_iterate_drift {count : Nat} {after : Salmon} :
    after ∈ (drift^[count] river).salmon ↔
      ∃ salmon ∈ river.salmon, river.fate? count salmon = some after := by
  rw [iterate_drift_salmon, List.mem_filterMap]

/-- The fate of a salmon after some ticks is all that the ticks behind them ask for. -/
theorem fate?_add (river : River) (early more : Nat) (salmon : Salmon) :
    river.fate? (early + more) salmon = (river.fate? early salmon).bind (river.fate? more) := by
  induction more with
  | zero =>
      rcases river.fate? early salmon with _ | after
      · rfl
      · rfl
  | succ more ih =>
      rw [← Nat.add_assoc, fate?, ih, Option.bind_assoc]
      rfl

theorem isSome_fate?_of_le (hle : early ≤ late) (hlate : (river.fate? late salmon).isSome) :
    (river.fate? early salmon).isSome := by
  obtain ⟨more, rfl⟩ := Nat.exists_eq_add_of_le hle
  rw [fate?_add] at hlate
  obtain ⟨after, hafter⟩ := Option.isSome_iff_exists.1 hlate
  obtain ⟨before, hbefore, -⟩ := Option.bind_eq_some_iff.1 hafter
  exact Option.isSome_of_eq_some hbefore

/-- A salmon that comes back to a state it has been in is never out of the river. -/
theorem lasts_of_repeat (hlt : early < late)
    (hrepeat : river.fate? early salmon = river.fate? late salmon)
    (hlate : (river.fate? late salmon).isSome) (count : Nat) :
    (river.fate? count salmon).isSome := by
  induction count using Nat.strong_induction_on with
  | h count ih =>
      by_cases hle : count ≤ late
      · exact isSome_fate?_of_le hle hlate
      · -- One round earlier the salmon was in the same state.
        obtain ⟨more, rfl⟩ := Nat.exists_eq_add_of_le (Nat.le_of_not_le hle)
        rw [fate?_add, ← hrepeat, ← fate?_add]
        apply ih
        omega

theorem Sound.bounds_of_fate? (hsound : river.Sound) (hmem : salmon ∈ river.salmon) {count : Nat}
    {after : Salmon} (hfate : river.fate? count salmon = some after) :
    0 ≤ after.pc ∧ after.pc < river.program.size := by
  have hafter : after ∈ (River.drift^[count] river).salmon :=
    mem_iterate_drift.2 ⟨salmon, hmem, hfate⟩
  have hbounds := (hsound.iterate_drift count).inside after hafter
  rwa [iterate_drift_program] at hbounds

/-- There are not enough states for a salmon to be in a new one each time. -/
theorem Sound.exists_repeat (hsound : river.Sound) (hmem : salmon ∈ river.salmon)
    (hleft : (river.fate? (200 * river.program.size) salmon).isSome) :
    ∃ early late, early < late ∧ late ≤ 200 * river.program.size ∧
      river.fate? early salmon = river.fate? late salmon := by
  let spots := Finset.range boardWidth ×ˢ Finset.range boardHeight ×ˢ
    Finset.range river.program.size
  let spotAt := fun tick => ((river.fate? tick salmon).getD salmon).spot
  have hstate (tick : Nat) (htick : tick ≤ 200 * river.program.size) :
      ∃ after, river.fate? tick salmon = some after :=
    Option.isSome_iff_exists.1 (isSome_fate?_of_le htick hleft)
  have hspots : ∀ tick ∈ Finset.range (200 * river.program.size + 1), spotAt tick ∈ spots := by
    intro tick htick
    obtain ⟨after, hafter⟩ := hstate tick (Nat.lt_succ_iff.1 (Finset.mem_range.1 htick))
    obtain ⟨hge, hlt⟩ := hsound.bounds_of_fate? hmem hafter
    have hx := after.cell.x.isLt
    have hy := after.cell.y.isLt
    simp only [spotAt, spots, hafter, Option.getD_some, Salmon.spot, Finset.mem_product,
      Finset.mem_range]
    omega
  have hcard : spots.card < (Finset.range (200 * river.program.size + 1)).card := by
    simp only [spots, Finset.card_product, Finset.card_range, boardWidth, boardHeight]
    omega
  obtain ⟨one, hone, other, hother, hne, hspot⟩ :=
    Finset.exists_ne_map_eq_of_card_lt_of_maps_to hcard hspots
  rw [Finset.mem_range, Nat.lt_succ_iff] at hone hother
  have hsame : river.fate? one salmon = river.fate? other salmon := by
    obtain ⟨first, hfirst⟩ := hstate one hone
    obtain ⟨second, hsecond⟩ := hstate other hother
    simp only [spotAt, hfirst, hsecond, Option.getD_some] at hspot
    have hid : first.id = second.id := (fate?_id hfirst).trans (fate?_id hsecond).symm
    rw [hfirst, hsecond, Salmon.eq_of_spot hspot hid (hsound.bounds_of_fate? hmem hfirst).1
      (hsound.bounds_of_fate? hmem hsecond).1]
  rcases Nat.lt_or_gt_of_ne hne with hlt | hlt
  · exact ⟨one, other, hlt, hother, hsame⟩
  · exact ⟨other, one, hlt, hone, hsame.symm⟩

/-- A salmon that is left after two hundred ticks for each instruction is left for ever. -/
theorem Sound.lasts (hsound : river.Sound) (hmem : salmon ∈ river.salmon)
    (hleft : (river.fate? (200 * river.program.size) salmon).isSome) (count : Nat) :
    (river.fate? count salmon).isSome := by
  obtain ⟨early, late, hlt, hle, hrepeat⟩ := hsound.exists_repeat hmem hleft
  exact lasts_of_repeat hlt hrepeat (isSome_fate?_of_le hle hleft) count

section

variable {last : River} {count : Nat}

/-- A level that is not complete has a salmon left. -/
theorem Passes.exists_left (h : river.Passes count last) (hsound : river.Sound)
    (hlast : last.isComplete = false) :
    ∃ salmon ∈ river.salmon, (river.fate? count salmon).isSome := by
  have hne : last.salmon ≠ [] := by simpa [isComplete] using hlast
  obtain ⟨after, hafter⟩ := List.exists_mem_of_ne_nil last.salmon hne
  rw [h.eq_drift hsound] at hafter
  obtain ⟨salmon, hmem, hfate⟩ := mem_iterate_drift.1 hafter
  exact ⟨salmon, hmem, Option.isSome_of_eq_some hfate⟩

/-- As long as a salmon is left a level is not complete. -/
theorem Passes.not_complete (h : river.Passes count last) (hsound : river.Sound)
    (hmem : salmon ∈ river.salmon) (hleft : (river.fate? count salmon).isSome) :
    last.isComplete = false := by
  obtain ⟨after, hafter⟩ := Option.isSome_iff_exists.1 hleft
  have hlast : after ∈ last.salmon := by
    rw [h.eq_drift hsound]
    exact mem_iterate_drift.2 ⟨salmon, hmem, hafter⟩
  rw [isComplete, List.isEmpty_eq_false_iff]
  exact List.ne_nil_of_mem hlast

end

end River

/-- A salmon that is left after two hundred ticks for each instruction is left after any
number of ticks.  So a run with a cap of at least that many ticks is incomplete only if
every run is, whatever its cap; and a run that writes nothing comes to its end. -/
theorem long_run_decides (level : Level) (program : Program) (river : River)
    (hproper : level.tiles.Proper) (hload : River.load level program = .ok river) :
    (∃ late, river.ticks (200 * program.size) = .ok late ∧ ∀ salmon ∈ late.salmon, ∀ count,
      ∃ now, river.ticks count = .ok now ∧ ∃ same ∈ now.salmon, same.id = salmon.id) ∧
    (∀ (threshold : Int) (config : RunConfig) (disk : Disk),
      ∃ report, (runLevel threshold level program config none disk).result = .ok report) ∧
    ∀ (threshold : Int) (config : RunConfig) (out : Option Path) (disk : Disk)
      (report : RunReport),
      (runLevel threshold level program config out disk).result = .ok report →
      200 * program.size ≤ config.maxTicks → report.completed = false →
      ∀ (threshold' : Int) (config' : RunConfig) (out' : Option Path) (disk' : Disk)
        (report' : RunReport),
        (runLevel threshold' level program config' out' disk').result = .ok report' →
        report'.completed = false := by
  obtain ⟨hsize, hclosed, rfl⟩ := River.load_eq_ok_iff.1 hload
  have hsound := River.sound_fresh hproper hsize hclosed
  refine ⟨⟨_, hsound.ticks_eq _, ?_⟩, exists_report_of_dry hsound hload, ?_⟩
  · intro after hafter count
    obtain ⟨salmon, hmem, hfate⟩ := River.mem_iterate_drift.1 hafter
    obtain ⟨same, hsame⟩ := Option.isSome_iff_exists.1
      (hsound.lasts hmem (Option.isSome_of_eq_some hfate) count)
    refine ⟨_, hsound.ticks_eq count, same, River.mem_iterate_drift.2 ⟨salmon, hmem, hsame⟩, ?_⟩
    rw [River.fate?_id hsame, River.fate?_id hfate]
  · intro threshold config out disk report hresult hcap hcompleted _ config' _ _ report' hresult'
    obtain ⟨last, htells⟩ := tells_of_runLevel hresult
    obtain ⟨last', htells'⟩ := tells_of_runLevel hresult'
    rw [htells.completed] at hcompleted
    rw [htells'.completed]
    -- Somebody is left with the cap, and so somebody is left whenever the other run ends.
    obtain ⟨salmon, hmem, hleft⟩ := htells.ends.exists_left hsound hcompleted
    have hticks := htells.ends.eq_cap hcompleted
    have hlong := River.isSome_fate?_of_le (hticks ▸ hcap) hleft
    exact htells'.ends.not_complete hsound hmem (hsound.lasts hmem hlong _)

/-- In the pond with leftward moves two salmon arrive at once, and the third stays at the
edge: a cap of two hundred ticks shows that no run is ever complete. -/
theorem long_run_decides_pond :
    Level.pond.tiles.Proper ∧
      River.load Level.pond #[.move .left] = .ok (River.fresh Level.pond #[.move .left]) ∧
      (runLevel standardThreshold Level.pond #[.move .left] ⟨200, true, by decide⟩ none
        (.blank [] [])).result = .ok ⟨1, false, 200, 1⟩ ∧
      ∀ (config : RunConfig) (report : RunReport),
        (runLevel standardThreshold Level.pond #[.move .left] config none
          (.blank [] [])).result = .ok report → report.completed = false := by
  have hload := River.load_eq_fresh (by decide : 0 < (#[.move .left] : Program).size)
    (by decide) Level.pond
  have hresult : (runLevel standardThreshold Level.pond #[.move .left] ⟨200, true, by decide⟩
      none (.blank [] [])).result = .ok ⟨1, false, 200, 1⟩ := by
    decide +kernel
  obtain ⟨-, -, hdecides⟩ := long_run_decides Level.pond #[.move .left] _ Level.pond_proper hload
  refine ⟨Level.pond_proper, hload, hresult, fun config report => ?_⟩
  exact hdecides _ _ none _ _ hresult (Nat.le_refl 200) rfl _ config none _ report

end RiverPuzzle
