import RiverPuzzle.Proofs.Drift
import RiverPuzzle.Proofs.Recording
import RiverPuzzle.Run.Runner

/-!
# Finished runs

A run that comes to its end without a fault has let the ticks of its river pass one after
the other until no salmon was left or the cap was reached, whatever the map is made of and
wherever its rows went.  The main statements read off such a run how it ended and what it
left on the disk.
-/

namespace RiverPuzzle

namespace River

/-- The rows of the salmon after a number of ticks; there are none when a tick fails. -/
def rowsAfter (river : River) (number : Int) (tick : Nat) : List TraceRow :=
  match river.ticks tick with
  | .ok now => now.salmon.map (TraceRow.ofSalmon number tick)
  | .error _ => []

/-- A number of ticks pass without a fault, and before each of them a salmon is left. -/
structure Passes (river : River) (count : Nat) (now : River) : Prop where
  ticked : river.ticks count = .ok now
  lively : ∀ tick < count, ∃ earlier, river.ticks tick = .ok earlier ∧ earlier.isComplete = false

/-- The ticks of a run pass, and it ends because no salmon is left or with the cap. -/
structure Ends (river : River) (cap count : Nat) (last : River) : Prop
    extends river.Passes count last where
  le_cap : count ≤ cap
  settled : last.isComplete = true ∨ count = cap

variable {river now next : River} {count : Nat}

theorem rowsAfter_of_ticks (number : Int) (hticked : river.ticks count = .ok now) :
    river.rowsAfter number count = now.salmon.map (TraceRow.ofSalmon number count) := by
  rw [rowsAfter, hticked]

theorem passes_zero (river : River) : river.Passes 0 river where
  ticked := rfl
  lively := fun tick htick => absurd htick (Nat.not_lt_zero tick)

theorem Passes.succ (h : river.Passes count now) (hlively : now.isComplete = false)
    (htick : now.tick = .ok next) : river.Passes (count + 1) next where
  ticked := by
    rw [ticks, h.ticked]
    exact htick
  lively := by
    intro tick hlt
    rcases Nat.lt_succ_iff_lt_or_eq.1 hlt with hlt | rfl
    · exact h.lively tick hlt
    · exact ⟨now, h.ticked, hlively⟩

/-- All the ticks of a run are ticks of its river. -/
theorem Passes.exists_ticks (h : river.Passes count now) {tick : Nat} (hle : tick ≤ count) :
    ∃ mid, river.ticks tick = .ok mid := by
  rcases Nat.lt_or_eq_of_le hle with hlt | rfl
  · obtain ⟨earlier, hearlier, -⟩ := h.lively tick hlt
    exact ⟨earlier, hearlier⟩
  · exact ⟨now, h.ticked⟩

/-- A run that leaves a salmon ends with its cap. -/
theorem Ends.eq_cap {cap : Nat} (h : river.Ends cap count now) (hleft : now.isComplete = false) :
    count = cap := by
  rcases h.settled with hcomplete | hcount
  · rw [hcomplete] at hleft
    cases hleft
  · exact hcount

/-- In a sound river the ticks of a run are drifts. -/
theorem Passes.eq_drift (h : river.Passes count now) (hsound : river.Sound) :
    now = River.drift^[count] river :=
  Except.ok.inj (h.ticked.symm.trans (hsound.ticks_eq count))

theorem Passes.lively_drift (h : river.Passes count now) (hsound : river.Sound) :
    ∀ tick < count, (River.drift^[tick] river).isComplete = false := by
  intro tick hlt
  obtain ⟨earlier, hticked, hlively⟩ := h.lively tick hlt
  rw [hsound.ticks_eq tick] at hticked
  cases hticked
  exact hlively

end River

namespace Progress

variable {river : River} {tracing : Option Tracing} {progress after : Progress}

/-- What a run has noted so far: nothing if it is not traced, and otherwise the salmon after
each of its ticks. -/
inductive Notes (river : River) (progress : Progress) : Option Tracing → Prop
  | untraced (hnew : progress.recorder = .new) : Notes river progress none
  | traced {tracing : Tracing} {first : Nat}
      (hrecording : Recording tracing.threshold (river.rowsAfter tracing.level) first
        progress.ticks progress.recorder) :
      Notes river progress (some tracing)

/-- What a run has noted at its end, when no row waits any more. -/
inductive Leaves (river : River) (progress : Progress) : Option Tracing → Prop
  | untraced (hnew : progress.recorder = .new) : Leaves river progress none
  | traced {tracing : Tracing}
      (hgrouped : Grouped tracing.threshold (river.rowsAfter tracing.level) progress.ticks
        progress.recorder.written)
      (hfrugal : progress.recorder.Frugal) : Leaves river progress (some tracing)

theorem notes_start (river : River) (tracing : Option Tracing) :
    ((start river).note tracing).Notes river tracing := by
  rcases tracing with _ | tracing
  · exact .untraced rfl
  · exact .traced (Recording.start tracing.threshold (river.rowsAfter tracing.level))

/-- The rows of one more tick are noted, and perhaps written. -/
theorem Notes.advance {moved : River} (h : progress.Notes river tracing)
    (hticked : river.ticks (progress.ticks + 1) = .ok moved)
    (hafter : ((⟨moved, progress.ticks + 1, progress.recorder⟩ : Progress).note
      tracing).flushIfFull tracing = (after, none)) :
    after.Notes river tracing ∧ after.river = moved ∧ after.ticks = progress.ticks + 1 := by
  rcases h with hnew | hrecording
  · cases hafter
    exact ⟨.untraced hnew, rfl, rfl⟩
  · rename_i tracing first
    have hrows := River.rowsAfter_of_ticks tracing.level hticked
    simp only [note, rows, ← hrows, flushIfFull] at hafter
    have hsize : (progress.recorder.add (river.rowsAfter tracing.level
        (progress.ticks + 1))).pending.size =
        (rowsFrom (river.rowsAfter tracing.level) first (progress.ticks + 1)).length := by
      rw [← Columns.length_toList, hrecording.pending_add]
    rw [hsize] at hafter
    by_cases henough : tracing.threshold ≤
        (rowsFrom (river.rowsAfter tracing.level) first (progress.ticks + 1)).length
    · rw [if_pos henough] at hafter
      simp only [flush] at hafter
      rcases hflush : (progress.recorder.add (river.rowsAfter tracing.level
        (progress.ticks + 1))).flush tracing.door with ⟨written, _ | fault⟩
      · rw [hflush] at hafter
        cases hafter
        exact ⟨.traced (hrecording.flushed hflush henough), rfl, rfl⟩
      · rw [hflush] at hafter
        cases hafter
    · rw [if_neg henough] at hafter
      cases hafter
      exact ⟨.traced (hrecording.wait (Int.not_le.1 henough)), rfl, rfl⟩

/-- A swim that does not fail goes on until no salmon is left or its count is used up. -/
theorem Notes.swim {count : Nat} (h : progress.Notes river tracing)
    (hpasses : river.Passes progress.ticks progress.river)
    (hswim : Progress.swim tracing count progress = (after, none)) :
    river.Ends (progress.ticks + count) after.ticks after.river ∧ after.Notes river tracing := by
  induction count generalizing progress with
  | zero =>
      cases hswim
      exact ⟨⟨hpasses, Nat.le_refl _, .inr rfl⟩, h⟩
  | succ count ih =>
      rw [Progress.swim] at hswim
      by_cases hcomplete : progress.river.isComplete = true
      · rw [if_pos hcomplete] at hswim
        cases hswim
        exact ⟨⟨hpasses, Nat.le_add_right _ _, .inl hcomplete⟩, h⟩
      · rw [if_neg hcomplete] at hswim
        rcases htick : progress.river.tick with interruption | moved
        · rw [htick] at hswim
          cases hswim
        · have hmoved := hpasses.succ (Bool.eq_false_iff.2 hcomplete) htick
          simp only [htick] at hswim
          split at hswim
          · rename_i next hnext
            obtain ⟨hnotes, hriver, hticks⟩ := h.advance hmoved.ticked hnext
            rw [← hriver, ← hticks] at hmoved
            obtain ⟨hends, hafter⟩ := ih hnotes hmoved hswim
            rw [hticks, Nat.add_assoc, Nat.add_comm 1 count] at hends
            exact ⟨hends, hafter⟩
          · cases hswim

theorem run_inv {cap : Nat} (hrun : run tracing cap river = (after, none)) :
    river.Ends cap after.ticks after.river ∧ after.Leaves river tracing := by
  unfold run at hrun
  split at hrun
  · rename_i last hswim
    have hstart : river.Passes ((start river).note tracing).ticks
        ((start river).note tracing).river := by
      rcases tracing with _ | tracing <;> exact river.passes_zero
    obtain ⟨hends, hnotes⟩ := (notes_start river tracing).swim hstart hswim
    have hticks : ((start river).note tracing).ticks = 0 := by
      rcases tracing with _ | tracing <;> rfl
    rw [hticks, Nat.zero_add] at hends
    rcases hnotes with hnew | hrecording
    · cases hrun
      exact ⟨hends, .untraced hnew⟩
    · rename_i tracing first
      simp only [flush] at hrun
      rcases hflush : last.recorder.flush tracing.door with ⟨written, _ | fault⟩
      · rw [hflush] at hrun
        cases hrun
        obtain ⟨hgrouped, hfrugal⟩ := hrecording.finished hflush
        exact ⟨hends, .traced hgrouped hfrugal⟩
      · rw [hflush] at hrun
        cases hrun
  · cases hrun

end Progress

/-- Without a trace nothing stops a run of a sound river. -/
theorem Progress.exists_swim (count : Nat) (progress : Progress)
    (hsound : progress.river.Sound) :
    ∃ after, Progress.swim none count progress = (after, none) := by
  induction count generalizing progress with
  | zero => exact ⟨progress, rfl⟩
  | succ count ih =>
      rw [Progress.swim]
      by_cases hcomplete : progress.river.isComplete = true
      · exact ⟨progress, if_pos hcomplete⟩
      · rw [if_neg hcomplete, River.tick_eq_drift hsound.flows]
        exact ih ⟨progress.river.drift, progress.ticks + 1, progress.recorder⟩ hsound.drift

theorem Progress.exists_run {river : River} (hsound : river.Sound) (cap : Nat) :
    ∃ after, Progress.run none cap river = (after, none) := by
  obtain ⟨after, hswim⟩ := exists_swim cap (start river) hsound
  refine ⟨after, ?_⟩
  simp only [run, note, hswim, flush]

/-- The report says how the river of a level was at the end of a run. -/
structure RunReport.Tells (report : RunReport) (level : Level) (program : Program) (cap : Nat)
    (last : River) : Prop where
  ends : (River.fresh level program).Ends cap report.ticks last
  level : report.level = level.number
  completed : report.completed = last.isComplete
  remaining : report.remaining = last.salmon.length

/-- How a run into an output folder is traced. -/
def Disk.tracing (disk : Disk) (out : Path) (threshold : Int) (level : Level)
    (config : RunConfig) : Option Tracing :=
  if config.traced then
    some ⟨level.number, threshold, (disk.locateTable out.trace).map fun _ => ()⟩
  else none

section

variable {threshold : Int} {level : Level} {program : Program} {config : RunConfig}
  {disk done : Disk} {report : RunReport} {log : List LogRecord}

theorem Progress.tells_report {tracing : Option Tracing} {after : Progress} {cap : Nat}
    (hrun : Progress.run tracing cap (River.fresh level program) = (after, none)) :
    (after.report level.number).Tells level program cap after.river :=
  ⟨(Progress.run_inv hrun).1, rfl, rfl, rfl⟩

theorem runDry_inv {river : River}
    (h : runDry level config river disk = ⟨.ok report, done, log⟩) :
    ∃ after, Progress.run none config.maxTicks river = (after, none) ∧
      report = after.report level.number ∧ done = disk := by
  unfold runDry at h
  split at h
  · cases h
  · rename_i after hrun
    cases h
    exact ⟨after, hrun, rfl, rfl⟩

/-- A run into a folder that comes to its end has written both its tables. -/
theorem runInto_inv {river : River} {out : Path}
    (h : runInto threshold level config river out disk = ⟨.ok report, done, log⟩) :
    ∃ after, Progress.run (disk.tracing out threshold level config) config.maxTicks river =
        (after, none) ∧
      report = after.report level.number ∧
      (disk.writeTrace out after.recorder).writeSummary out
        (report.summaryRow river.program.size) = (done, none) := by
  generalize htracing : disk.tracing out threshold level config = tracing
  unfold Disk.tracing at htracing
  unfold runInto at h
  simp only [htracing] at h
  rcases hrun : Progress.run tracing config.maxTicks river with ⟨after, _ | fault⟩
  · rw [hrun] at h
    simp only at h
    split at h
    · cases h
    · rename_i written hwritten
      cases h
      exact ⟨after, rfl, rfl, hwritten⟩
  · rw [hrun] at h
    cases h

/-- A program with which a run comes to its end could be loaded. -/
theorem load_of_runLevel {out : Option Path}
    (h : (runLevel threshold level program config out disk).result = .ok report) :
    River.load level program = .ok (River.fresh level program) := by
  unfold runLevel at h
  split at h
  · cases h
  · rename_i river hload
    rw [hload, (River.load_eq_ok_iff.1 hload).2.2]

/-- A run with an output folder that comes to its end has made the folder of its logs and
written both its tables there. -/
theorem runLevel_inv {out : Path}
    (h : (runLevel threshold level program config (some out) disk).result = .ok report) :
    ∃ ready after, disk.makeFolders out.logs = (ready, .ok ()) ∧
      Progress.run (ready.tracing out threshold level config) config.maxTicks
        (River.fresh level program) = (after, none) ∧
      report = after.report level.number ∧
      (ready.writeTrace out after.recorder).writeSummary out (report.summaryRow program.size) =
        ((runLevel threshold level program config (some out) disk).disk, none) := by
  have hload := load_of_runLevel h
  unfold runLevel at h ⊢
  rw [hload] at h ⊢
  simp only at h ⊢
  rcases hmade : disk.makeFolders out.logs with ⟨ready, fault | made⟩
  · rw [hmade] at h
    cases h
  · rw [hmade] at h
    simp only at h ⊢
    rcases hinto : runInto threshold level config (River.fresh level program) out ready with
      ⟨result, done, log⟩
    rw [hinto] at h
    cases h
    obtain ⟨after, hrun, hreport, hwritten⟩ := runInto_inv hinto
    exact ⟨ready, after, rfl, hrun, hreport, hwritten⟩

/-- Whatever becomes of its tables, a run that comes to its end reports on its river. -/
theorem tells_of_runLevel {out : Option Path}
    (h : (runLevel threshold level program config out disk).result = .ok report) :
    ∃ last, report.Tells level program config.maxTicks last := by
  rcases out with _ | out
  · have hload := load_of_runLevel h
    unfold runLevel at h
    rw [hload] at h
    simp only at h
    rcases hdry : runDry level config (River.fresh level program) disk with ⟨result, done, log⟩
    rw [hdry] at h
    cases h
    obtain ⟨after, hrun, rfl, -⟩ := runDry_inv hdry
    exact ⟨after.river, Progress.tells_report hrun⟩
  · obtain ⟨ready, after, -, hrun, rfl, -⟩ := runLevel_inv h
    exact ⟨after.river, Progress.tells_report hrun⟩

/-- A run that leaves nothing on a disk comes to its end, if its river is sound. -/
theorem exists_report_of_dry (hsound : (River.fresh level program).Sound)
    (hload : River.load level program = .ok (River.fresh level program)) (threshold : Int)
    (config : RunConfig) (disk : Disk) :
    ∃ report, (runLevel threshold level program config none disk).result = .ok report := by
  obtain ⟨after, hrun⟩ := Progress.exists_run hsound config.maxTicks
  refine ⟨after.report level.number, ?_⟩
  simp only [runLevel, hload, runDry, hrun]

end

end RiverPuzzle
