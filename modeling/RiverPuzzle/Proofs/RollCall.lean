import RiverPuzzle.Proofs.Circles
import RiverPuzzle.Proofs.SharedFolder
import RiverPuzzle.Proofs.TracedRun

/-!
# Roll calls

A trace calls the roll of the salmon after every tick, and a summary counts those that are
left in the end.  This module reads both off a run that has come to its end, whatever its cap
was and however large its numbers were.  The main statement: in the trace the salmon stand in
order, none of them misses a call before its last one, and the summary counts what the last
call has.
-/

namespace RiverPuzzle

/-- Of two rows the one of the earlier tick comes first, and in one tick that of the smaller
number. -/
def TraceRow.Before (one other : TraceRow) : Prop :=
  one.tick < other.tick ∨ one.tick = other.tick ∧ one.id < other.id

/-- Rows that are in order tick by tick are in order as a whole. -/
theorem pairwise_before_rowsFrom {rows : Nat → List TraceRow}
    (hticks : ∀ tick, ∀ row ∈ rows tick, row.tick = tick)
    (hids : ∀ tick, (rows tick).Pairwise fun one other => one.id < other.id)
    (first last : Nat) : (rowsFrom rows first last).Pairwise TraceRow.Before := by
  refine List.pairwise_flatMap.2 ⟨fun tick _ => ?_, ?_⟩
  · apply (hids tick).imp_of_mem
    intro one other hone hother hlt
    exact .inr ⟨(hticks tick one hone).trans (hticks tick other hother).symm, hlt⟩
  · refine List.Pairwise.imp ?_ List.pairwise_lt_range'
    intro early late hlt one hone other hother
    have hone := hticks early one hone
    have hother := hticks late other hother
    exact .inl (by omega)

namespace River

variable {level : Level} {program : Program} {river : River} {salmon : Salmon} {number : Int}

/-- The ticks up to a bound after which a salmon is in the river are the first ones. -/
theorem exists_range_of_fate? (river : River) (salmon : Salmon) (last : Nat) :
    ∃ stop, (List.range (last + 1)).filter (fun tick => (river.fate? tick salmon).isSome) =
      List.range (stop + 1) := by
  induction last with
  | zero => exact ⟨0, by simp [fate?]⟩
  | succ last ih =>
      by_cases hleft : (river.fate? (last + 1) salmon).isSome
      · refine ⟨last + 1, List.filter_eq_self.2 ?_⟩
        intro tick htick
        have hle : tick ≤ last + 1 := Nat.le_of_lt_succ (List.mem_range.1 htick)
        exact isSome_fate?_of_le hle hleft
      · obtain ⟨stop, hstop⟩ := ih
        refine ⟨stop, ?_⟩
        rw [List.range_succ, List.filter_append, hstop]
        simp [hleft]

theorem pairwise_id_rowsAt (level : Level) (program : Program) (number : Int) (tick : Nat) :
    ((fresh level program).rowsAt number tick).Pairwise fun one other => one.id < other.id := by
  rw [rowsAt, iterate_drift_salmon]
  apply List.pairwise_map.2
  exact pairwise_id_filterMap_fate? tick (pairwise_id_hatch level.starts)

/-- The ticks in the rows of one salmon are those after which it is in the river. -/
theorem ticks_of_salmon (hordered : river.salmon.Pairwise fun one other => one.id < other.id)
    (hmem : salmon ∈ river.salmon) (number : Int) (last : Nat) :
    ((rowsFrom (river.rowsAt number) 0 last).filter fun row => row.id = salmon.id).map
        TraceRow.tick =
      ((List.range (last + 1)).filter fun tick => (river.fate? tick salmon).isSome).map
        Nat.cast := by
  have hrows (tick : Nat) : ((river.rowsAt number tick).filter fun row => row.id = salmon.id) =
      (river.fate? tick salmon).toList.map (TraceRow.ofSalmon number tick) := by
    rw [← filter_id_iterate_drift hordered hmem, rowsAt, List.filter_map]
    rfl
  have hone (tick : Nat) : ((river.rowsAt number tick).filter fun row => row.id = salmon.id).map
      TraceRow.tick = if (river.fate? tick salmon).isSome then [(tick : Int)] else [] := by
    rw [hrows]
    cases river.fate? tick salmon <;> rfl
  rw [rowsFrom, ← List.range_eq_range', Nat.sub_zero]
  induction List.range (last + 1) with
  | nil => rfl
  | cons tick rest ih =>
      rw [List.flatMap_cons, List.filter_append, List.map_append, ih, hone, List.filter_cons]
      split <;> rfl

/-- Every salmon of a level is called in the first ticks of a run, without a gap. -/
theorem exists_ticks_of_start (level : Level) (program : Program) (number : Int) (last : Nat)
    {id : Nat} (hid : id < level.starts.length) :
    ∃ stop, ((rowsFrom ((fresh level program).rowsAt number) 0 last).filter
        fun row => row.id = (id : Int)).map TraceRow.tick =
      (List.range (stop + 1)).map Nat.cast := by
  have hmem : (⟨id, level.starts[id], 0⟩ : Salmon) ∈ (fresh level program).salmon :=
    List.mem_mapIdx.2 ⟨id, hid, rfl⟩
  obtain ⟨stop, hstop⟩ :=
    exists_range_of_fate? (fresh level program) ⟨id, level.starts[id], 0⟩ last
  refine ⟨stop, ?_⟩
  rw [← hstop]
  exact ticks_of_salmon (pairwise_id_hatch level.starts) hmem number last

section

variable {cap count : Nat} {last : River}

theorem Sound.rowsAfter_eq (hsound : river.Sound) (number : Int) :
    river.rowsAfter number = river.rowsAt number := by
  funext tick
  exact rowsAfter_of_ticks number (hsound.ticks_eq tick)

theorem Passes.rowsAt_eq (h : river.Passes count last) (hsound : river.Sound) (number : Int) :
    river.rowsAt number count = last.salmon.map (TraceRow.ofSalmon number count) := by
  rw [rowsAt, h.eq_drift hsound]

/-- The last call of a run has the salmon that are left. -/
theorem Passes.length_last_call (h : river.Passes count last) (hsound : river.Sound)
    (number : Int) :
    ((rowsFrom (river.rowsAt number) 0 count).filter fun row => row.tick = (count : Int)).length =
      last.salmon.length := by
  rw [filter_rowsFrom (fun _ _ => tick_of_mem_rowsAt) (Nat.zero_le count) (Nat.le_refl count),
    h.rowsAt_eq hsound, List.length_map]

/-- A run that is complete has its last row in the tick before its last one. -/
theorem Passes.largest_tick (h : river.Passes count last) (hsound : river.Sound)
    (hcomplete : last.isComplete = true)
    (hrows : rowsFrom (river.rowsAt number) 0 count ≠ []) :
    (∃ row ∈ rowsFrom (river.rowsAt number) 0 count, row.tick = (count : Int) - 1) ∧
      ∀ row ∈ rowsFrom (river.rowsAt number) 0 count, row.tick ≤ (count : Int) - 1 := by
  have hlast : river.rowsAt number count = [] := by
    rw [h.rowsAt_eq hsound, List.isEmpty_iff.1 hcomplete, List.map_nil]
  obtain ⟨before, rfl⟩ : ∃ before, count = before + 1 := by
    apply Nat.exists_eq_add_one_of_ne_zero
    rintro rfl
    exact hrows (by rw [rowsFrom_self, hlast])
  constructor
  · have hlively := h.lively_drift hsound before (Nat.lt_succ_self before)
    obtain ⟨salmon, rest, hcrowd⟩ := List.exists_cons_of_ne_nil
      (List.isEmpty_eq_false_iff.1 hlively)
    have hmem : TraceRow.ofSalmon number before salmon ∈ river.rowsAt number before := by
      simp [rowsAt, hcrowd]
    refine ⟨_, mem_rowsFrom.2 ⟨before, Nat.zero_le _, Nat.le_succ _, hmem⟩, ?_⟩
    simp [TraceRow.ofSalmon]
  · intro row hrow
    obtain ⟨tick, -, hle, hmem⟩ := mem_rowsFrom.1 hrow
    have hne : tick ≠ before + 1 := by
      rintro rfl
      simp [hlast] at hmem
    have htick := tick_of_mem_rowsAt hmem
    omega

end

end River

/-- There is room for the tables in a fresh folder. -/
theorem Disk.Fresh.roomy {disk ready : Disk} {out : Path} {trace summary : Location}
    (h : disk.Fresh ready out trace summary) : disk.Roomy out trace summary := by
  have hready : (disk.makeFolders out.logs).1 = ready := by rw [h.made]
  exact ⟨by rw [hready, h.opened], by rw [hready, h.summed], h.apart⟩

/-- Nothing lies where the trace goes. -/
theorem Disk.Fresh.vacant_before {disk ready : Disk} {out : Path} {trace summary : Location}
    (h : disk.Fresh ready out trace summary) : disk.entry? trace = none := by
  have hmade := (Disk.makeFolders_inv h.made).2.made
  rw [← hmade.eq_of_free (Disk.free_of_vacant h.vacant), h.vacant]

section

variable {threshold : Int} {level : Level} {program : Program} {config : RunConfig} {out : Path}
  {disk ready done : Disk} {trace summary : Location} {report : RunReport} {log : List LogRecord}

/-- A traced run into a fresh folder that comes to its end leaves the rows of all its ticks, and
no file if there are none. -/
theorem tables_of_fresh (hfresh : disk.Fresh ready out trace summary)
    (htraced : config.traced = true)
    (hrun : runLevel threshold level program config (some out) disk = ⟨.ok report, done, log⟩) :
    ∃ groups, done.entry? trace =
        (if groups.flatten = [] then none else some (.file (.trace groups))) ∧
      done.entry? summary = some (.file (.summary [report.summaryRow program.size])) ∧
      groups.flatten =
        rowsFrom ((River.fresh level program).rowsAfter level.number) 0 report.ticks := by
  let errand : Errand := ⟨level, program, config⟩
  have hdone : (errand.run threshold out disk).disk = done := congrArg RunOutcome.disk hrun
  have hresult : (errand.run threshold out disk).result = .ok report :=
    congrArg RunOutcome.result hrun
  obtain ⟨last, htells⟩ := tells_of_runLevel hresult
  have hempty := htells.ends.rows_eq_nil_iff level.number
  obtain ⟨-, hsummary, hrecords, hidle⟩ := Errand.tables_of_run hfresh.roomy hresult
  rw [hdone] at hsummary hrecords hidle
  by_cases hstarts : level.starts = []
  · have hnone : errand.records = false := by simp [Errand.records, errand, hstarts]
    refine ⟨[], ?_, hsummary, (hempty.2 hstarts).symm⟩
    rw [hidle hnone, hfresh.vacant_before]
    rfl
  · have hsome : errand.records = true := by
      simp [Errand.records, errand, htraced, hstarts]
    obtain ⟨groups, hentry, hflatten⟩ := hrecords hsome
    have hne : groups.flatten ≠ [] := hflatten ▸ hempty.not.2 hstarts
    exact ⟨groups, by rw [if_neg hne, hentry], hsummary, hflatten⟩

/-- When a traced run into a fresh folder comes to its end, its two tables agree.  The rows of
the trace are in order, by tick and by number; every salmon of the level is in it from tick
zero on and without a gap.  The summary counts the rows of the last tick and says that the run
is complete exactly if there are none.  If it is not, the last tick is that of the cap, and
if it is, the last rows are those of the tick before. -/
theorem trace_agrees_with_summary (hproper : level.tiles.Proper)
    (hfresh : disk.Fresh ready out trace summary) (htraced : config.traced = true)
    (hrun : runLevel threshold level program config (some out) disk = ⟨.ok report, done, log⟩) :
    ∃ (groups : List (List TraceRow)) (row : SummaryRow),
      done.entry? trace = (if groups.flatten = [] then none else some (.file (.trace groups))) ∧
      done.entry? summary = some (.file (.summary [row])) ∧
      groups.flatten.Pairwise TraceRow.Before ∧
      (∀ called ∈ groups.flatten, called.level = row.level ∧
        0 ≤ called.id ∧ called.id < level.starts.length) ∧
      (∀ id < level.starts.length, ∃ stop : Nat,
        (groups.flatten.filter fun called => called.id = (id : Int)).map TraceRow.tick =
          (List.range (stop + 1)).map Nat.cast) ∧
      row.remaining = (groups.flatten.filter fun called => called.tick = row.ticks).length ∧
      (row.completed = true ↔ row.remaining = 0) ∧
      (row.completed = false → row.ticks = config.maxTicks) ∧
      (row.completed = true → groups.flatten ≠ [] →
        (∃ called ∈ groups.flatten, called.tick = row.ticks - 1) ∧
          ∀ called ∈ groups.flatten, called.tick ≤ row.ticks - 1) := by
  have hresult : (runLevel threshold level program config (some out) disk).result = .ok report :=
    congrArg RunOutcome.result hrun
  obtain ⟨hsize, hclosed, -⟩ := River.load_eq_ok_iff.1 (load_of_runLevel hresult)
  have hsound := River.sound_fresh hproper hsize hclosed
  obtain ⟨last, htells⟩ := tells_of_runLevel hresult
  have hpasses := htells.ends.toPasses
  obtain ⟨groups, htrace, hsummary, hflatten⟩ := tables_of_fresh hfresh htraced hrun
  rw [hsound.rowsAfter_eq] at hflatten
  refine ⟨groups, report.summaryRow program.size, htrace, hsummary, ?_⟩
  rw [hflatten]
  refine ⟨?_, ?_, ?_, ?_, ?_, ?_, ?_⟩
  · exact pairwise_before_rowsFrom (fun _ _ => River.tick_of_mem_rowsAt)
      (River.pairwise_id_rowsAt level program level.number) 0 report.ticks
  · intro called hcalled
    obtain ⟨tick, -, -, hrow⟩ := mem_rowsFrom.1 hcalled
    obtain ⟨salmon, hsalmon, rfl⟩ := List.mem_map.1 hrow
    exact ⟨htells.level.symm, River.id_bounds hsalmon⟩
  · intro id hid
    exact River.exists_ticks_of_start level program level.number report.ticks hid
  · have hcalls := hpasses.length_last_call hsound level.number
    rw [← htells.remaining] at hcalls
    exact congrArg Nat.cast hcalls.symm
  · simp [RunReport.summaryRow, htells.completed, htells.remaining, River.isComplete]
  · intro hleft
    have hcap := htells.ends.eq_cap (htells.completed.symm.trans hleft)
    exact congrArg Nat.cast hcap
  · intro hcomplete
    exact hpasses.largest_tick hsound (htells.completed.symm.trans hcomplete)

/-- In a pond with a second finish all salmon arrive within two ticks, and the last rows of the
trace are those of the first one. -/
theorem trace_agrees_with_summary_pond :
    (Level.pond.setTile ⟨3, 5⟩ .finish).tiles.Proper ∧ RunConfig.standard.traced = true ∧
      ∃ ready trace summary done log,
        Disk.Fresh (.blank [] []) ready ⟨"/", ["out"]⟩ trace summary ∧
        runLevel standardThreshold (Level.pond.setTile ⟨3, 5⟩ .finish) #[.move .left] .standard
          (some ⟨"/", ["out"]⟩) (.blank [] []) = ⟨.ok ⟨1, true, 2, 0⟩, done, log⟩ ∧
        ∃ (groups : List (List TraceRow)) (row : SummaryRow),
          done.entry? trace =
            (if groups.flatten = [] then none else some (.file (.trace groups))) ∧
          done.entry? summary = some (.file (.summary [row])) ∧
          groups.flatten.Pairwise TraceRow.Before ∧
          row.remaining = (groups.flatten.filter fun called => called.tick = row.ticks).length := by
  have hproper : (Level.pond.setTile ⟨3, 5⟩ .finish).tiles.Proper :=
    Level.pond_proper.set ⟨3, 5⟩ .finish
  have hplain : Path.Plain ⟨"/", ["out"]⟩ := ⟨.inl rfl, by decide⟩
  obtain ⟨ready, hfresh⟩ := Disk.fresh_of_plain hplain (by decide)
    (Disk.stands_origin_rooted _ rfl) (Disk.clear_blank [] [] _) (by decide) (by decide)
  have hresult : (runLevel standardThreshold (Level.pond.setTile ⟨3, 5⟩ .finish) #[.move .left]
      .standard (some ⟨"/", ["out"]⟩) (.blank [] [])).result = .ok ⟨1, true, 2, 0⟩ := by
    decide +kernel
  obtain ⟨result, done, log, hrun⟩ : ∃ result done log, runLevel standardThreshold
      (Level.pond.setTile ⟨3, 5⟩ .finish) #[.move .left] .standard (some ⟨"/", ["out"]⟩)
      (.blank [] []) = ⟨result, done, log⟩ := ⟨_, _, _, rfl⟩
  rw [hrun] at hresult
  cases hresult
  obtain ⟨groups, row, htrace, hsummary, hordered, -, -, hcount, -⟩ :=
    trace_agrees_with_summary hproper hfresh rfl hrun
  exact ⟨hproper, rfl, ready, _, _, _, _, hfresh, hrun, groups, row, htrace, hsummary, hordered,
    hcount⟩

end

end RiverPuzzle
