import RiverPuzzle.Proofs.FreshFolder
import RiverPuzzle.Proofs.Recording
import RiverPuzzle.Proofs.Solitude
import RiverPuzzle.Run.Runner

/-!
# Traced runs

A run notes the salmon before the first tick and after every tick, and leaves the rows
in a file.  This module follows a run of a sound river with its recorder tick by tick
and then its tables to a fresh output folder.  The main statement: whatever number of
waiting rows is written at once, the rows in the file are those of all ticks, in order.
-/

namespace RiverPuzzle

namespace River

variable {level : Level} {program : Program} {salmon : Salmon} {count : Nat}

/-- The rows of the salmon after a number of ticks. -/
def rowsAt (river : River) (number : Int) (tick : Nat) : List TraceRow :=
  (drift^[tick] river).salmon.map (TraceRow.ofSalmon number tick)

theorem tick_of_mem_rowsAt {river : River} {number : Int} {tick : Nat} {row : TraceRow}
    (hrow : row ∈ river.rowsAt number tick) : row.tick = tick := by
  obtain ⟨salmon, -, rfl⟩ := List.mem_map.1 hrow
  rfl

/-- How many ticks a run takes: it ends when no salmon is left, and with the cap. -/
def lastTick (river : River) : (cap : Nat) → Nat
  | 0 => 0
  | cap + 1 => if river.isComplete then 0 else river.drift.lastTick cap + 1

theorem lastTick_le (river : River) (cap : Nat) : river.lastTick cap ≤ cap := by
  induction cap generalizing river with
  | zero => exact Nat.le_refl 0
  | succ cap ih =>
      rw [lastTick]
      split
      · exact Nat.zero_le _
      · exact Nat.succ_le_succ (ih river.drift)

/-- The report on a run that is left alone until its last tick. -/
def lastReport (river : River) (number : Int) (cap : Nat) : RunReport :=
  let late := drift^[river.lastTick cap] river
  ⟨number, late.isComplete, river.lastTick cap, late.salmon.length⟩

/-- The numbers of the salmon are those of the starts. -/
theorem id_bounds (hmem : salmon ∈ (drift^[count] (fresh level program)).salmon) :
    0 ≤ salmon.id ∧ salmon.id < level.starts.length := by
  rw [iterate_drift_salmon] at hmem
  obtain ⟨before, hbefore, hfate⟩ := List.mem_filterMap.1 hmem
  obtain ⟨id, hid, rfl⟩ := List.mem_mapIdx.1 hbefore
  rw [fate?_id hfate]
  simp only
  omega

/-- Nobody is born in a river. -/
theorem length_iterate_drift_le (level : Level) (program : Program) (count : Nat) :
    (drift^[count] (fresh level program)).salmon.length ≤ level.starts.length := by
  rw [iterate_drift_salmon]
  calc ((fresh level program).salmon.filterMap _).length
      ≤ (fresh level program).salmon.length := List.length_filterMap_le _ _
    _ = level.starts.length := by simp [fresh, hatch]

theorem fits_rowsAt {number : Int} {tick : Nat} (hsound : (fresh level program).Sound)
    (hnumber : FitsWord number) (htick : tick < wordLimit) (hsize : program.size < wordLimit)
    (hstarts : level.starts.length < wordLimit) :
    ∀ row ∈ (fresh level program).rowsAt number tick, row.Fits := by
  intro row hrow
  obtain ⟨salmon, hmem, rfl⟩ := List.mem_map.1 hrow
  have hid := id_bounds hmem
  have hpc := (hsound.iterate_drift tick).inside salmon hmem
  rw [iterate_drift_program] at hpc
  have hx : salmon.cell.x.val < 10 := salmon.cell.x.isLt
  have hy : salmon.cell.y.val < 20 := salmon.cell.y.isLt
  have hprogram : (fresh level program).program.size = program.size := rfl
  intro value hvalue
  simp only [TraceRow.values, TraceRow.ofSalmon, List.mem_cons, List.not_mem_nil, or_false]
    at hvalue
  unfold FitsWord wordLimit at *
  rcases hvalue with rfl | rfl | rfl | rfl | rfl | rfl <;> omega

end River

/-- A run of the river has noted the salmon after each of its ticks so far, and has
written them in the groups that the threshold asks for. -/
structure Progress.Traces (river : River) (number threshold : Int) (progress : Progress) :
    Prop where
  drifted : progress.river = River.drift^[progress.ticks] river
  recording : ∃ first,
    Recording threshold (river.rowsAt number) first progress.ticks progress.recorder

namespace Progress

variable {river : River} {number threshold : Int} {progress : Progress}

theorem Traces.start (river : River) (number threshold : Int) :
    ((start river).note (some ⟨number, threshold, .ok ()⟩)).Traces river number threshold where
  drifted := rfl
  recording := ⟨0, Recording.start threshold (river.rowsAt number)⟩

/-- The rows of a river that has just drifted are noted, and written if they are enough. -/
theorem Traces.advance (h : progress.Traces river number threshold)
    (hfits : ∀ tick ≤ progress.ticks + 1, ∀ row ∈ river.rowsAt number tick, row.Fits) :
    ∃ next, ((⟨progress.river.drift, progress.ticks + 1, progress.recorder⟩ : Progress).note
          (some ⟨number, threshold, .ok ()⟩)).flushIfFull (some ⟨number, threshold, .ok ()⟩) =
        (next, none) ∧
      next.Traces river number threshold ∧ next.river = progress.river.drift ∧
      next.ticks = progress.ticks + 1 := by
  obtain ⟨first, hrecording⟩ := h.recording
  have hriver : progress.river.drift = River.drift^[progress.ticks + 1] river := by
    rw [Function.iterate_succ_apply', h.drifted]
  have hrows : progress.river.drift.salmon.map (TraceRow.ofSalmon number ↑(progress.ticks + 1)) =
      river.rowsAt number (progress.ticks + 1) := by
    rw [hriver]
    rfl
  have hsize : (progress.recorder.add (river.rowsAt number (progress.ticks + 1))).pending.size =
      (rowsFrom (river.rowsAt number) first (progress.ticks + 1)).length := by
    rw [← Columns.length_toList, hrecording.pending_add]
  simp only [note, rows, flushIfFull, hrows, hsize]
  split
  · rename_i henough
    obtain ⟨after, hflush⟩ := hrecording.exists_flush hfits
    have hafter := hrecording.flushed hflush henough
    refine ⟨⟨progress.river.drift, progress.ticks + 1, after⟩, ?_, ⟨hriver, _, hafter⟩, rfl, rfl⟩
    simp only [flush, hflush, Option.map_none]
  · rename_i hfew
    have hwait := hrecording.wait (Int.not_le.1 hfew)
    exact ⟨_, rfl, ⟨hriver, first, hwait⟩, rfl, rfl⟩

/-- A traced swim comes to its last tick, and keeps its trace. -/
theorem Traces.swim (hsound : river.Sound) (count : Nat)
    (h : progress.Traces river number threshold)
    (hfits : ∀ tick ≤ progress.ticks + count, ∀ row ∈ river.rowsAt number tick, row.Fits) :
    ∃ after, swim (some ⟨number, threshold, .ok ()⟩) count progress = (after, none) ∧
      after.Traces river number threshold ∧
      after.ticks = progress.ticks + progress.river.lastTick count := by
  induction count generalizing progress with
  | zero => exact ⟨progress, rfl, h, rfl⟩
  | succ count ih =>
      rw [Progress.swim, River.lastTick]
      cases hcomplete : progress.river.isComplete with
      | true => exact ⟨progress, rfl, h, rfl⟩
      | false =>
          have htick : progress.river.tick = .ok progress.river.drift := by
            rw [h.drifted]
            exact River.tick_eq_drift (hsound.iterate_drift progress.ticks).flows
          obtain ⟨next, hnext, htraces, hriver, hticks⟩ :=
            h.advance fun tick htick => hfits tick (by omega)
          obtain ⟨after, hswim, hafter, hlast⟩ :=
            ih htraces fun tick htick => hfits tick (by omega)
          refine ⟨after, ?_, hafter, ?_⟩
          · simp only [htick, hnext]
            exact hswim
          · rw [hlast, hriver, hticks, if_neg Bool.false_ne_true]
            omega

/-- A traced run of a sound river comes to its end, with all its rows written. -/
theorem run_traced (hsound : river.Sound) (cap : Nat) (threshold : Int)
    (hfits : ∀ tick ≤ cap, ∀ row ∈ river.rowsAt number tick, row.Fits) :
    ∃ after, run (some ⟨number, threshold, .ok ()⟩) cap river = (after, none) ∧
      after.report number = river.lastReport number cap ∧
      Grouped threshold (river.rowsAt number) (river.lastTick cap) after.recorder.written ∧
      after.recorder.Frugal := by
  obtain ⟨last, hswim, htraces, hticks⟩ :=
    (Traces.start river number threshold).swim hsound cap fun tick htick =>
      hfits tick (Nat.zero_add cap ▸ htick)
  have hlast : last.ticks = river.lastTick cap := hticks.trans (Nat.zero_add _)
  obtain ⟨first, hrecording⟩ := htraces.recording
  rw [hlast] at hrecording
  obtain ⟨after, hflush⟩ := hrecording.exists_finish fun tick htick =>
    hfits tick (Nat.le_trans htick (river.lastTick_le cap))
  obtain ⟨hgrouped, hfrugal⟩ := hrecording.finished hflush
  refine ⟨⟨last.river, last.ticks, after⟩, ?_, ?_, hgrouped, hfrugal⟩
  · simp only [run, hswim, flush, hflush, Option.map_none]
  · rw [report, htraces.drifted, hlast]
    rfl

end Progress

namespace Disk

variable {disk ready : Disk} {out : Path} {trace summary : Location}

/-- Both tables of a run are written, and the trace is a file only if the recorder has
written to it. -/
theorem Fresh.tables (hfresh : disk.Fresh ready out trace summary) (recorder : Recorder)
    {row : SummaryRow} (hrow : row.Fits) :
    ∃ done, (ready.writeTrace out recorder).writeSummary out row = (done, none) ∧
      done.entry? trace = recorder.content?.map .file := by
  have htable : row.table = .ok [row] := if_pos hrow
  unfold writeTrace writeSummary writeTable
  cases recorder.content? with
  | none =>
      refine ⟨ready.put summary (.file (.summary [row])), ?_, ?_⟩
      · simp only [htable, hfresh.summed]
      · rw [ready.entry?_put_of_ne hfresh.apart, hfresh.vacant]
        rfl
  | some content =>
      have hfree := free_of_vacant hfresh.vacant
      have hsummed := locateTable_put hfree content hfresh.summed
      refine ⟨(ready.put trace (.file content)).put summary (.file (.summary [row])), ?_, ?_⟩
      · simp only [htable, hfresh.opened, hsummed]
      · rw [entry?_put_of_ne _ hfresh.apart, entry?_put_self _ (ne_nil_of_free hfree)]
        rfl

/-- Both tables of a run are written, in place of those that are there. -/
theorem Takes.exists_done (htakes : disk.Takes ready out) (recorder : Recorder)
    {row : SummaryRow} (hrow : row.Fits) :
    ∃ done, (ready.writeTrace out recorder).writeSummary out row = (done, none) := by
  obtain ⟨place, hopened⟩ := htakes.opened
  obtain ⟨spot, hsummed⟩ := htakes.summed
  have htable : row.table = .ok [row] := if_pos hrow
  have hwritten : (ready.writeTrace out recorder).locateTable out.summary = .ok spot := by
    unfold writeTrace
    cases recorder.content? with
    | none => exact hsummed
    | some content =>
        obtain ⟨done, hdone⟩ := exists_writeTable hopened content
        simp only [hdone]
        exact locateTable_writeTable hdone hsummed
  obtain ⟨done, hdone⟩ := exists_writeTable hwritten (.summary [row])
  exact ⟨done, by simp only [writeSummary, htable, hdone]⟩

end Disk

section

variable {level : Level} {program : Program} {config : RunConfig} {out : Path}
  {disk ready : Disk} {trace summary : Location}

theorem RunReport.fits_summaryRow {report : RunReport} (hnumber : FitsWord report.level)
    (hticks : (report.ticks : Int) < wordLimit) (hremaining : (report.remaining : Int) < wordLimit)
    (hsize : program.size < wordLimit) : (report.summaryRow program.size).Fits := by
  intro value hvalue
  simp only [RunReport.summaryRow, List.mem_cons, List.not_mem_nil, or_false] at hvalue
  unfold FitsWord wordLimit tableVersion at *
  rcases hvalue with rfl | rfl | rfl | rfl | rfl <;> omega

/-- A traced run into a fresh folder comes to its last tick, and its trace is there. -/
theorem runLevel_traced (hsound : (River.fresh level program).Sound)
    (hload : River.load level program = .ok (River.fresh level program))
    (hfresh : disk.Fresh ready out trace summary) (htraced : config.traced = true)
    (hnumber : FitsWord level.number) (hcap : config.maxTicks < wordLimit)
    (hsize : program.size < wordLimit) (hstarts : level.starts.length < wordLimit)
    (threshold : Int) :
    ∃ (report : RunReport) (done : Disk) (groups : List (List TraceRow)),
      report = (River.fresh level program).lastReport level.number config.maxTicks ∧
      runLevel threshold level program config (some out) disk =
        ⟨.ok report, done, [report.logRecord]⟩ ∧
      done.entry? trace = (if groups = [] then none else some (.file (.trace groups))) ∧
      Grouped threshold ((River.fresh level program).rowsAt level.number) report.ticks groups := by
  have hfits : ∀ tick ≤ config.maxTicks,
      ∀ row ∈ (River.fresh level program).rowsAt level.number tick, row.Fits :=
    fun tick htick => River.fits_rowsAt hsound hnumber (by omega) hsize hstarts
  obtain ⟨after, hrun, hreport, hgrouped, hfrugal⟩ :=
    Progress.run_traced hsound config.maxTicks threshold hfits
  have hticks := (River.fresh level program).lastTick_le config.maxTicks
  have hremaining := River.length_iterate_drift_le level program
    ((River.fresh level program).lastTick config.maxTicks)
  have hrow : (((River.fresh level program).lastReport level.number config.maxTicks).summaryRow
      program.size).Fits := by
    apply RunReport.fits_summaryRow hnumber _ _ hsize <;> simp only [River.lastReport] <;> omega
  obtain ⟨done, hdone, hentry⟩ := hfresh.tables after.recorder hrow
  have hprogram : (River.fresh level program).program = program := rfl
  refine ⟨_, done, after.recorder.written, rfl, ?_, ?_, hgrouped⟩
  · simp only [runLevel, hload, hfresh.made, runInto, htraced, if_true, hfresh.opened, Except.map,
      hrun, hreport, hprogram, hdone]
  · rw [hentry, Recorder.content?_eq hfrugal]
    split <;> rfl

/-- Whatever the threshold is, a run into a fresh folder ends with the same report, and the
file of its trace holds the rows of every tick, in order, in groups of whole ticks that
end as soon as they have enough rows.  Without rows there is no file. -/
theorem trace_of_run {river : River} (hproper : level.tiles.Proper)
    (hload : River.load level program = .ok river)
    (hfresh : disk.Fresh ready out trace summary) (htraced : config.traced = true)
    (hnumber : FitsWord level.number) (hcap : config.maxTicks < wordLimit)
    (hsize : program.size < wordLimit) (hstarts : level.starts.length < wordLimit) :
    ∃ (report : RunReport) (rows : Nat → List TraceRow),
      (∀ tick ≤ report.ticks, ∃ now, river.ticks tick = .ok now ∧
        rows tick = now.salmon.map (TraceRow.ofSalmon level.number tick)) ∧
      ∀ threshold : Int, ∃ groups : List (List TraceRow),
        (runLevel threshold level program config (some out) disk).result = .ok report ∧
        Disk.entry? (runLevel threshold level program config (some out) disk).disk trace =
          (if groups.flatten = [] then none else some (.file (.trace groups))) ∧
        groups.flatten = (List.range (report.ticks + 1)).flatMap rows ∧
        Grouped threshold rows report.ticks groups ∧
        ∀ group ∈ groups.dropLast, threshold ≤ group.length := by
  obtain ⟨hpos, hclosed, rfl⟩ := River.load_eq_ok_iff.1 hload
  have hsound := River.sound_fresh hproper hpos hclosed
  refine ⟨(River.fresh level program).lastReport level.number config.maxTicks,
    (River.fresh level program).rowsAt level.number,
    fun tick _ => ⟨_, hsound.ticks_eq tick, rfl⟩, fun threshold => ?_⟩
  obtain ⟨report, done, groups, rfl, hrun, hentry, hgrouped⟩ :=
    runLevel_traced hsound hload hfresh htraced hnumber hcap hsize hstarts threshold
  have hempty : groups = [] ↔ groups.flatten = [] := by
    rw [hgrouped.eq_nil_iff, hgrouped.flatten]
  refine ⟨groups, by rw [hrun], ?_, ?_, hgrouped, hgrouped.enough⟩
  · rw [hrun, hentry]
    simp only [hempty]
  · rw [hgrouped.flatten, rowsFrom, ← List.range_eq_range']
    rfl

/-- A trace of the pond, in which two of three salmon arrive with the first tick. -/
theorem trace_of_run_pond :
    ∃ ready out trace summary, Level.pond.tiles.Proper ∧
      River.load Level.pond #[.move .left, .goto 0] =
        .ok (River.fresh Level.pond #[.move .left, .goto 0]) ∧
      Disk.Fresh (.blank [] []) ready out trace summary ∧ RunConfig.standard.traced = true ∧
      ∃ (report : RunReport) (rows : Nat → List TraceRow), ∀ threshold : Int,
        ∃ groups : List (List TraceRow),
          (runLevel threshold Level.pond #[.move .left, .goto 0] .standard (some out)
            (.blank [] [])).result = .ok report ∧
          groups.flatten = (List.range (report.ticks + 1)).flatMap rows := by
  have hload := River.load_eq_fresh (by decide : 0 < (#[.move .left, .goto 0] : Program).size)
    (by decide) Level.pond
  have htraced : RunConfig.standard.traced = true := rfl
  have hplain : Path.Plain ⟨"/", ["out"]⟩ := ⟨.inl rfl, by decide⟩
  obtain ⟨ready, hfresh⟩ := Disk.fresh_of_plain hplain (by decide)
    (Disk.stands_origin_rooted _ rfl) (Disk.clear_blank [] [] _) (by decide) (by decide)
  obtain ⟨report, rows, -, hgroups⟩ := trace_of_run Level.pond_proper hload hfresh htraced
    (by decide) (by decide) (by decide) (by decide)
  refine ⟨ready, _, _, _, Level.pond_proper, hload, hfresh, htraced, report, rows, ?_⟩
  intro threshold
  obtain ⟨groups, hresult, -, hflatten, -, -⟩ := hgroups threshold
  exact ⟨groups, hresult, hflatten⟩

end

end RiverPuzzle
