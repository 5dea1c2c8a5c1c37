import Mathlib.Order.Bounds.Basic
import RiverPuzzle.Proofs.RollCall

/-!
# The cap

A run ends with its cap, or with the first tick after which no salmon is left if that comes
earlier.  So the cap says how much of a run there is, and changes nothing in it.  The main
statement says this of the reports and of the traces: the trace of a run with a smaller
cap has the rows of the first ticks of one with a larger cap.
-/

namespace RiverPuzzle

/-- The numbers of ticks after which no salmon is left. -/
def River.emptyAfter (river : River) : Set Nat :=
  {tick | ∃ now, river.ticks tick = .ok now ∧ now.isComplete = true}

/-- The report is on a run that ends with the cap, or as soon as no salmon is left. -/
structure RunReport.Capped (report : RunReport) (river : River) (cap : Nat) : Prop where
  of_least : ∀ least, IsLeast river.emptyAfter least →
    report.ticks = min cap least ∧ (report.completed = true ↔ least ≤ cap)
  of_never : river.emptyAfter = ∅ → report.ticks = cap ∧ report.completed = false
  remaining : ∃ last, river.ticks report.ticks = .ok last ∧
    report.remaining = last.salmon.length

/-- The file at the location has these rows; if there are none there is no file. -/
def Disk.HoldsRows (disk : Disk) (location : Location) (rows : List TraceRow) : Prop :=
  ∃ groups : List (List TraceRow), groups.flatten = rows ∧
    disk.entry? location = if rows = [] then none else some (.file (.trace groups))

/-- Whatever fresh folder it is for, the trace of a run that comes to its end has these rows. -/
def RunConfig.Traces (config : RunConfig) (level : Level) (program : Program)
    (rows : List TraceRow) : Prop :=
  ∀ (threshold : Int) (out : Path) (disk ready : Disk) (trace summary : Location)
    (report : RunReport), disk.Fresh ready out trace summary →
    (runLevel threshold level program config (some out) disk).result = .ok report →
    (runLevel threshold level program config (some out) disk).disk.HoldsRows trace rows

/-- The rows up to a tick are those of the ticks up to it. -/
theorem filter_le_rowsFrom {rows : Nat → List TraceRow}
    (hticks : ∀ tick, ∀ row ∈ rows tick, row.tick = tick) (stop last : Nat) :
    (rowsFrom rows 0 last).filter (fun row => row.tick ≤ (stop : Int)) =
      rowsFrom rows 0 (min stop last) := by
  have hself {tick : Nat} (hle : tick ≤ stop) :
      (rows tick).filter (fun row => row.tick ≤ (stop : Int)) = rows tick := by
    apply List.filter_eq_self.2
    intro row hrow
    rw [decide_eq_true_iff, hticks tick row hrow]
    exact Int.ofNat_le.2 hle
  induction last with
  | zero => rw [Nat.min_zero, rowsFrom_self, hself (Nat.zero_le stop)]
  | succ last ih =>
      rw [rowsFrom_succ (Nat.zero_le _), List.filter_append, ih]
      rcases Nat.lt_or_ge last stop with hlt | hge
      · rw [hself hlt, Nat.min_eq_right hlt.le, Nat.min_eq_right hlt,
          rowsFrom_succ (Nat.zero_le _)]
      · have hnone : (rows (last + 1)).filter (fun row => row.tick ≤ (stop : Int)) = [] := by
          apply List.filter_eq_nil_iff.2
          intro row hrow
          rw [decide_eq_true_iff, hticks (last + 1) row hrow, Int.ofNat_le]
          omega
        rw [hnone, List.append_nil, Nat.min_eq_left hge, Nat.min_eq_left (Nat.le_succ_of_le hge)]

namespace River

variable {river now last : River} {cap count least : Nat}

theorem Passes.mem_emptyAfter_iff (h : river.Passes count now) :
    count ∈ river.emptyAfter ↔ now.isComplete = true := by
  constructor
  · rintro ⟨other, hother, hcomplete⟩
    cases h.ticked.symm.trans hother
    exact hcomplete
  · exact fun hcomplete => ⟨now, h.ticked, hcomplete⟩

/-- No tick of a run comes after one that leaves no salmon. -/
theorem Passes.le_of_mem_emptyAfter (h : river.Passes count now)
    (hempty : least ∈ river.emptyAfter) : count ≤ least := by
  by_contra hlt
  obtain ⟨earlier, hearlier, hlively⟩ := h.lively least (Nat.lt_of_not_le hlt)
  obtain ⟨other, hother, hcomplete⟩ := hempty
  cases hearlier.symm.trans hother
  rw [hcomplete] at hlively
  cases hlively

theorem Ends.eq_min (h : river.Ends cap count last) (hleast : IsLeast river.emptyAfter least) :
    count = min cap least ∧ (last.isComplete = true ↔ least ≤ cap) := by
  have hle : count ≤ least := h.le_of_mem_emptyAfter hleast.1
  rcases h.settled with hcomplete | rfl
  · have hge : least ≤ count := hleast.2 (h.mem_emptyAfter_iff.2 hcomplete)
    obtain rfl := Nat.le_antisymm hle hge
    exact ⟨(Nat.min_eq_right h.le_cap).symm, iff_of_true hcomplete h.le_cap⟩
  · refine ⟨(Nat.min_eq_left hle).symm, ?_⟩
    rw [← h.mem_emptyAfter_iff]
    exact ⟨fun hmem => hleast.2 hmem, fun hge => Nat.le_antisymm hle hge ▸ hleast.1⟩

theorem Ends.eq_cap_of_never (h : river.Ends cap count last) (hnever : river.emptyAfter = ∅) :
    count = cap ∧ last.isComplete = false := by
  have hleft : last.isComplete = false := by
    rw [← Bool.not_eq_true, ← h.mem_emptyAfter_iff, hnever]
    exact Set.notMem_empty count
  exact ⟨h.eq_cap hleft, hleft⟩

/-- A run with a smaller cap ends with the cap or where one with a larger cap ends. -/
theorem Ends.eq_min_of_le {later : River} {smaller larger few many : Nat}
    (h : river.Ends smaller few last) (hlong : river.Ends larger many later)
    (hle : smaller ≤ larger) : few = min smaller many := by
  have hfew : few ≤ smaller := h.le_cap
  have hshort : few ≤ many := by
    rcases hlong.settled with hcomplete | hmany
    · exact h.le_of_mem_emptyAfter (hlong.mem_emptyAfter_iff.2 hcomplete)
    · exact hmany ▸ hfew.trans hle
  rcases h.settled with hcomplete | rfl
  · have hagain : many ≤ few := hlong.le_of_mem_emptyAfter (h.mem_emptyAfter_iff.2 hcomplete)
    obtain rfl := Nat.le_antisymm hshort hagain
    exact (Nat.min_eq_right hfew).symm
  · exact (Nat.min_eq_left hshort).symm

/-- How many ticks a run takes depends on its cap only. -/
theorem Ends.count_unique {other : River} {again : Nat} (h : river.Ends cap count last)
    (hother : river.Ends cap again other) : count = again := by
  rw [h.eq_min_of_le hother (Nat.le_refl cap), Nat.min_eq_right hother.le_cap]

theorem Sound.exists_ends (hsound : river.Sound) (cap : Nat) :
    ∃ count last, river.Ends cap count last := by
  obtain ⟨after, hrun⟩ := Progress.exists_run hsound cap
  exact ⟨after.ticks, after.river, (Progress.run_inv hrun).1⟩

theorem isLeast_emptyAfter_zero {level : Level} (hstarts : level.starts = [])
    (program : Program) : IsLeast (fresh level program).emptyAfter 0 := by
  refine ⟨⟨fresh level program, rfl, ?_⟩, fun tick _ => Nat.zero_le tick⟩
  rw [isComplete, fresh, hstarts]
  rfl

end River

section

variable {threshold : Int} {level : Level} {program : Program} {config : RunConfig} {out : Path}
  {disk ready : Disk} {trace summary : Location} {report : RunReport} {cap : Nat} {last : River}

theorem RunReport.Tells.capped (h : report.Tells level program cap last) :
    report.Capped (River.fresh level program) cap where
  of_least := by
    intro least hleast
    rw [h.completed]
    exact h.ends.eq_min hleast
  of_never := by
    intro hnever
    rw [h.completed]
    exact h.ends.eq_cap_of_never hnever
  remaining := ⟨last, h.ends.ticked, h.remaining⟩

/-- The numbers in a report are no larger than those that the run is given. -/
theorem RunReport.Tells.fits_summaryRow (h : report.Tells level program cap last)
    (hsound : (River.fresh level program).Sound) (hnumber : FitsWord level.number)
    (hcap : cap < wordLimit) (hsize : program.size < wordLimit)
    (hstarts : level.starts.length < wordLimit) : (report.summaryRow program.size).Fits := by
  have hticks := h.ends.le_cap
  have hremaining := River.length_iterate_drift_le level program report.ticks
  rw [← h.ends.eq_drift hsound, ← h.remaining] at hremaining
  rw [← h.level] at hnumber
  exact RunReport.fits_summaryRow hnumber (by omega) (by omega) hsize

/-- Traced or not, a run whose numbers are not too large for its tables goes on to its last
tick. -/
theorem Disk.Takes.exists_run (htakes : disk.Takes ready out)
    (hsound : (River.fresh level program).Sound) (hnumber : FitsWord level.number)
    (hcap : config.maxTicks < wordLimit) (hsize : program.size < wordLimit)
    (hstarts : level.starts.length < wordLimit) (threshold : Int) :
    ∃ after, Progress.run (ready.tracing out threshold level config) config.maxTicks
      (River.fresh level program) = (after, none) := by
  unfold Disk.tracing
  cases config.traced with
  | false => exact Progress.exists_run hsound config.maxTicks
  | true =>
      obtain ⟨place, hopened⟩ := htakes.opened
      obtain ⟨after, hrun, -⟩ := Progress.run_traced hsound config.maxTicks threshold
        fun tick htick => River.fits_rowsAt hsound hnumber (by omega) hsize hstarts
      refine ⟨after, ?_⟩
      rw [if_pos rfl, hopened]
      exact hrun

/-- Such a run comes to its end, and both its tables are written. -/
theorem exists_report_of_takes (hsound : (River.fresh level program).Sound)
    (hload : River.load level program = .ok (River.fresh level program))
    (htakes : disk.Takes ready out) (hnumber : FitsWord level.number)
    (hcap : config.maxTicks < wordLimit) (hsize : program.size < wordLimit)
    (hstarts : level.starts.length < wordLimit) (threshold : Int) :
    ∃ report, (runLevel threshold level program config (some out) disk).result = .ok report := by
  obtain ⟨after, hrun⟩ := htakes.exists_run hsound hnumber hcap hsize hstarts threshold
  have hfits := (Progress.tells_report hrun).fits_summaryRow hsound hnumber hcap hsize hstarts
  obtain ⟨done, hdone⟩ := htakes.exists_done after.recorder hfits
  have hprogram : (River.fresh level program).program = program := rfl
  unfold Disk.tracing at hrun
  refine ⟨after.report level.number, ?_⟩
  simp only [runLevel, hload, htakes.made, runInto, hrun, hprogram, hdone]

/-- The rows of a trace are those of all the ticks for which a run goes on. -/
theorem RunConfig.traces_of_ends {count : Nat} (hsound : (River.fresh level program).Sound)
    (htraced : config.traced = true)
    (hends : (River.fresh level program).Ends config.maxTicks count last) :
    config.Traces level program
      (rowsFrom ((River.fresh level program).rowsAt level.number) 0 count) := by
  intro threshold out disk ready trace summary report hfresh hresult
  let outcome := runLevel threshold level program config (some out) disk
  have hrun : outcome = ⟨.ok report, outcome.disk, outcome.log⟩ := by rw [← hresult]
  obtain ⟨later, htells⟩ := tells_of_runLevel hresult
  obtain ⟨groups, hentry, -, hflatten⟩ := tables_of_fresh hfresh htraced hrun
  rw [hsound.rowsAfter_eq, htells.ends.count_unique hends] at hflatten
  refine ⟨groups, hflatten, ?_⟩
  rw [hentry, hflatten]

/-- The cap only cuts a run short.  A run without a folder always comes to its end, and one
into a fresh folder does if its numbers fit in its tables.  It goes on for as many ticks as the
cap allows, or until no salmon is left if that is sooner, and is complete if none is left by
then; on a level without starts none is left from the beginning.  The trace of a run with a
smaller cap has those rows of one with a larger cap whose ticks are not beyond the smaller
one. -/
theorem cap_cuts_short {river : River} (hproper : level.tiles.Proper)
    (hload : River.load level program = .ok river) :
    (∀ (threshold : Int) (config : RunConfig) (disk : Disk), ∃ report,
      (runLevel threshold level program config none disk).result = .ok report) ∧
    (∀ (threshold : Int) (config : RunConfig) (out : Path) (disk ready : Disk)
      (trace summary : Location), disk.Fresh ready out trace summary → FitsWord level.number →
      config.maxTicks < wordLimit → program.size < wordLimit →
      level.starts.length < wordLimit → ∃ report,
        (runLevel threshold level program config (some out) disk).result = .ok report) ∧
    (∀ (threshold : Int) (config : RunConfig) (out : Option Path) (disk : Disk)
      (report : RunReport),
      (runLevel threshold level program config out disk).result = .ok report →
      report.Capped river config.maxTicks) ∧
    (level.starts = [] → IsLeast river.emptyAfter 0) ∧
    ∀ small large : RunConfig, small.maxTicks ≤ large.maxTicks → small.traced = true →
      large.traced = true → ∃ rows, large.Traces level program rows ∧
        small.Traces level program (rows.filter fun row => row.tick ≤ (small.maxTicks : Int)) := by
  obtain ⟨hpos, hclosed, rfl⟩ := River.load_eq_ok_iff.1 hload
  have hsound := River.sound_fresh hproper hpos hclosed
  refine ⟨fun threshold config disk => exists_report_of_dry hsound hload threshold config disk,
    ?_, ?_, fun hstarts => River.isLeast_emptyAfter_zero hstarts program, ?_⟩
  · intro threshold config out disk ready trace summary hfresh hnumber hcap hsize hstarts
    exact exists_report_of_takes hsound hload hfresh.takes hnumber hcap hsize hstarts threshold
  · intro threshold config out disk report hresult
    obtain ⟨last, htells⟩ := tells_of_runLevel hresult
    exact htells.capped
  · intro small large hle hsmall hlarge
    obtain ⟨few, last, hfew⟩ := hsound.exists_ends small.maxTicks
    obtain ⟨many, later, hmany⟩ := hsound.exists_ends large.maxTicks
    refine ⟨_, RunConfig.traces_of_ends hsound hlarge hmany, ?_⟩
    rw [filter_le_rowsFrom (fun _ _ => River.tick_of_mem_rowsAt), ← hfew.eq_min_of_le hmany hle]
    exact RunConfig.traces_of_ends hsound hsmall hfew

/-- In a pond with a second finish no salmon is left after two ticks.  A cap of one tick cuts
the run and its trace short. -/
theorem cap_cuts_short_pond :
    (Level.pond.setTile ⟨3, 5⟩ .finish).tiles.Proper ∧
      ∃ river, River.load (Level.pond.setTile ⟨3, 5⟩ .finish) #[.move .left] = .ok river ∧
        IsLeast river.emptyAfter 2 ∧
        (∀ config : RunConfig, ∃ report,
          (runLevel standardThreshold (Level.pond.setTile ⟨3, 5⟩ .finish) #[.move .left] config
            none (.blank [] [])).result = .ok report ∧
          report.ticks = min config.maxTicks 2 ∧
          (report.completed = true ↔ 2 ≤ config.maxTicks)) ∧
        ∃ rows, RunConfig.standard.Traces (Level.pond.setTile ⟨3, 5⟩ .finish) #[.move .left] rows ∧
          (⟨1, true, Nat.le_refl 1⟩ : RunConfig).Traces (Level.pond.setTile ⟨3, 5⟩ .finish)
            #[.move .left] (rows.filter fun row => row.tick ≤ 1) := by
  have hproper : (Level.pond.setTile ⟨3, 5⟩ .finish).tiles.Proper :=
    Level.pond_proper.set ⟨3, 5⟩ .finish
  have hpos : 0 < (#[.move .left] : Program).size := by decide
  have hclosed : Program.Closed #[.move .left] := by decide
  have hload := River.load_eq_fresh hpos hclosed (Level.pond.setTile ⟨3, 5⟩ .finish)
  obtain ⟨hdry, -, hcapped, -, htraces⟩ := cap_cuts_short hproper hload
  have hleast : IsLeast (River.fresh (Level.pond.setTile ⟨3, 5⟩ .finish)
      #[.move .left]).emptyAfter 2 := by
    have hsound := River.sound_fresh hproper hpos hclosed
    refine ⟨⟨_, hsound.ticks_eq 2, by decide +kernel⟩, ?_⟩
    rintro tick ⟨now, hnow, hcomplete⟩
    rw [hsound.ticks_eq tick] at hnow
    cases hnow
    by_contra hlt
    obtain rfl | rfl : tick = 0 ∨ tick = 1 := by omega
    · revert hcomplete
      decide +kernel
    · revert hcomplete
      decide +kernel
  refine ⟨hproper, _, hload, hleast, fun config => ?_,
    htraces ⟨1, true, Nat.le_refl 1⟩ .standard (by decide) rfl rfl⟩
  obtain ⟨report, hreport⟩ := hdry standardThreshold config (.blank [] [])
  exact ⟨report, hreport, (hcapped _ _ _ _ _ hreport).of_least 2 hleast⟩

end

end RiverPuzzle
