import RiverPuzzle.Proofs.FinishedRun
import RiverPuzzle.Proofs.FreshFolder
import RiverPuzzle.Proofs.MadeFolder

/-!
# Runs that share an output folder

Every run writes its summary, in place of the one before.  A trace is written only by a run
that is asked for one and has salmon to note, and nothing ever takes one away.  The main
statement says what the two tables hold after any number of runs into one folder: the summary
is that of the last run, and the trace that of the last run which noted salmon.
-/

namespace RiverPuzzle

/-- What a run is asked to do. -/
structure Errand where
  level : Level
  program : Program
  config : RunConfig

namespace Errand

/-- The run of an errand into an output folder. -/
def run (errand : Errand) (threshold : Int) (out : Path) (disk : Disk) : RunOutcome :=
  runLevel threshold errand.level errand.program errand.config (some out) disk

/-- A run notes salmon if it is traced and there are any. -/
def records (errand : Errand) : Bool :=
  errand.config.traced && !errand.level.starts.isEmpty

/-- The rows of the salmon before the first tick and after every tick of a run. -/
def rows (errand : Errand) (report : RunReport) : List TraceRow :=
  rowsFrom ((River.fresh errand.level errand.program).rowsAfter errand.level.number) 0
    report.ticks

/-- The latest of a number of runs that noted salmon. -/
def latest? (story : List (Errand × RunReport)) : Option (Errand × RunReport) :=
  (story.filter fun run => run.1.records).getLast?

theorem latest?_concat (story : List (Errand × RunReport)) (run : Errand × RunReport) :
    latest? (story ++ [run]) = if run.1.records then some run else latest? story := by
  rw [latest?, List.filter_append]
  by_cases hrecords : run.1.records = true
  · have hlast : [run].filter (fun other => other.1.records) = [run] := by simp [hrecords]
    rw [hlast, List.getLast?_concat, if_pos hrecords]
  · have hlast : [run].filter (fun other => other.1.records) = [] := by simp [hrecords]
    rw [hlast, List.append_nil, if_neg hrecords, latest?]

/-- A number of runs, one after the other, into one output folder, all of which come to
their end: what they were asked to do, their reports, and the disk after them. -/
inductive Story (threshold : Int) (out : Path) (disk : Disk) :
    List (Errand × RunReport) → Disk → Prop
  | start : Story threshold out disk [] disk
  | next {story : List (Errand × RunReport)} {before : Disk} {errand : Errand}
      {report : RunReport} (earlier : Story threshold out disk story before)
      (hrun : (errand.run threshold out before).result = .ok report) :
      Story threshold out disk (story ++ [(errand, report)]) (errand.run threshold out before).disk

end Errand

namespace Disk

variable {disk ready done : Disk} {out : Path} {trace summary : Location}

/-- The two tables of runs into an output folder have different places on this disk, once
the folder for them has been made. -/
structure Roomy (disk : Disk) (out : Path) (trace summary : Location) : Prop where
  opened : (disk.makeFolders out.logs).1.locateTable out.trace = .ok (some trace)
  summed : (disk.makeFolders out.logs).1.locateTable out.summary = .ok (some summary)
  apart : trace ≠ summary

/-- The folder for the two tables is there, and they have different places on this disk. -/
structure Houses (disk : Disk) (out : Path) (trace summary : Location) : Prop where
  folder : disk.isFolder out.logs = true
  opened : disk.locateTable out.trace = .ok (some trace)
  summed : disk.locateTable out.summary = .ok (some summary)
  apart : trace ≠ summary

/-- At a plain path there is room for the tables if no file lies on the way and no folder
where they go. -/
theorem roomy_of_plain (hplain : out.Plain) (hshort : out.summary.isLong = false)
    (horigin : disk.Stands (disk.origin out)) (hclear : disk.Clear (disk.site out.logs))
    (htrace : disk.entry? (disk.site out.trace) ≠ some .folder)
    (hsummary : disk.entry? (disk.site out.summary) ≠ some .folder) :
    disk.Roomy out (disk.site out.trace) (disk.site out.summary) := by
  obtain ⟨ready, hmade, hopened, hsummed, -⟩ :=
    tables_of_plain hplain hshort horigin hclear htrace hsummary
  refine ⟨?_, ?_, disk.tables_apart out⟩
  · rw [hmade]
    exact hopened
  · rw [hmade]
    exact hsummed

theorem Roomy.houses (h : disk.Roomy out trace summary)
    (hmade : disk.makeFolders out.logs = (ready, .ok ())) : ready.Houses out trace summary := by
  have hopened := h.opened
  have hsummed := h.summed
  rw [hmade] at hopened hsummed
  exact ⟨(makeFolders_inv hmade).1, hopened, hsummed, h.apart⟩

namespace Houses

/-- A folder that houses the tables is not made again. -/
theorem roomy (h : disk.Houses out trace summary) : disk.Roomy out trace summary := by
  have hmade := makeFolders_of_isFolder h.folder
  exact ⟨by rw [hmade, h.opened], by rw [hmade, h.summed], h.apart⟩

/-- The tables keep their places when a file is put where no folder lies. -/
theorem put (h : disk.Houses out trace summary) {location : Location}
    (hfree : disk.entry? location ≠ some .folder) (content : Content) :
    (disk.put location (.file content)).Houses out trace summary :=
  ⟨isFolder_put hfree content h.folder, locateTable_put hfree content h.opened,
    locateTable_put hfree content h.summed, h.apart⟩

theorem writeTrace_eq (h : disk.Houses out trace summary) (recorder : Recorder) :
    disk.writeTrace out recorder =
      match recorder.content? with
      | none => disk
      | some content => disk.put trace (.file content) := by
  unfold writeTrace writeTable
  rcases recorder.content? with _ | content
  · rfl
  · simp only [h.opened]

theorem writeTrace (h : disk.Houses out trace summary) (recorder : Recorder) :
    (disk.writeTrace out recorder).Houses out trace summary := by
  rw [h.writeTrace_eq recorder]
  rcases recorder.content? with _ | content
  · exact h
  · exact h.put (free_of_locateTable h.opened) content

/-- A summary that is written takes the place of the one before. -/
theorem writeSummary_inv (h : disk.Houses out trace summary) {row : SummaryRow}
    (hwritten : disk.writeSummary out row = (done, none)) :
    done.Houses out trace summary ∧ done.entry? summary = some (.file (.summary [row])) ∧
      done.entry? trace = disk.entry? trace := by
  have hfree := free_of_locateTable h.summed
  unfold writeSummary writeTable at hwritten
  rcases htable : row.table with fault | rows
  · rw [htable] at hwritten
    cases hwritten
  · simp only [htable, h.summed] at hwritten
    cases hwritten
    refine ⟨h.put hfree _, ?_, entry?_put_of_ne disk h.apart _⟩
    unfold SummaryRow.table at htable
    split at htable
    · cases htable
      exact entry?_put_self disk (ne_nil_of_free hfree) _
    · cases htable

end Houses

end Disk

/-- A run has no rows exactly if its level has no starts. -/
theorem River.Ends.rows_eq_nil_iff {level : Level} {program : Program} {cap count : Nat}
    {last : River} (h : (River.fresh level program).Ends cap count last) (number : Int) :
    rowsFrom ((River.fresh level program).rowsAfter number) 0 count = [] ↔ level.starts = [] := by
  have hlength : (River.fresh level program).salmon.length = level.starts.length := by
    simp [River.fresh, River.hatch]
  constructor
  · intro hrows
    have hfirst : (River.fresh level program).rowsAfter number 0 = [] := by
      rw [List.eq_nil_iff_forall_not_mem] at hrows ⊢
      intro row hrow
      exact hrows row (mem_rowsFrom.2 ⟨0, Nat.le_refl 0, Nat.zero_le count, hrow⟩)
    rw [River.rowsAfter_of_ticks number (River.passes_zero _).ticked, List.map_eq_nil_iff] at hfirst
    rw [← List.length_eq_zero_iff, ← hlength, hfirst, List.length_nil]
  · intro hstarts
    have hnobody : (River.fresh level program).salmon = [] := by
      rw [← List.length_eq_zero_iff, hlength, hstarts, List.length_nil]
    -- Nobody is there before the first tick, so that no tick passes.
    have hcount : count = 0 := by
      by_contra hne
      obtain ⟨first, hfirst, hlively⟩ := h.lively 0 (Nat.pos_of_ne_zero hne)
      cases hfirst
      rw [River.isComplete, hnobody] at hlively
      cases hlively
    rw [hcount, rowsFrom_self, River.rowsAfter_of_ticks number (River.passes_zero _).ticked,
      hnobody, List.map_nil]

namespace Errand

variable {errand : Errand} {report : RunReport} {threshold : Int} {out : Path}
  {disk before : Disk} {trace summary : Location}

/-- The recorder of a run that comes to its end holds the rows of the run if it records, and
otherwise nothing. -/
theorem content?_of_leaves {ready : Disk} {after : Progress}
    (hends : (River.fresh errand.level errand.program).Ends errand.config.maxTicks after.ticks
      after.river)
    (hleaves : after.Leaves (River.fresh errand.level errand.program)
      (ready.tracing out threshold errand.level errand.config)) :
    (errand.records = true → ∃ groups, after.recorder.content? = some (.trace groups) ∧
      groups.flatten = errand.rows (after.report errand.level.number)) ∧
    (errand.records = false → after.recorder.content? = none) := by
  unfold Disk.tracing at hleaves
  by_cases htraced : errand.config.traced = true
  · rw [if_pos htraced] at hleaves
    obtain ⟨⟩ | ⟨hgrouped, hfrugal⟩ := hleaves
    have hnil : after.recorder.written = [] ↔ errand.level.starts = [] := by
      rw [hgrouped.flatten_eq_nil_iff, hgrouped.flatten]
      exact hends.rows_eq_nil_iff _
    rw [Recorder.content?_eq hfrugal, records, htraced, Bool.true_and]
    by_cases hstarts : errand.level.starts = []
    · simp [hnil.2 hstarts, hstarts]
    · rw [if_neg (hnil.not.2 hstarts)]
      refine ⟨fun _ => ⟨_, rfl, hgrouped.flatten⟩, fun hnone => ?_⟩
      simp [hstarts] at hnone
  · rw [if_neg htraced] at hleaves
    obtain ⟨hnew⟩ := hleaves
    rw [records, Bool.eq_false_iff.2 htraced, Bool.false_and, hnew]
    exact ⟨nofun, fun _ => rfl⟩

/-- What one run leaves in a folder with room for its tables. -/
theorem tables_of_run (h : before.Roomy out trace summary)
    (hrun : (errand.run threshold out before).result = .ok report) :
    let after := (errand.run threshold out before).disk
    after.Roomy out trace summary ∧
      after.entry? summary = some (.file (.summary [report.summaryRow errand.program.size])) ∧
      (errand.records = true → ∃ groups, after.entry? trace = some (.file (.trace groups)) ∧
        groups.flatten = errand.rows report) ∧
      (errand.records = false → after.entry? trace = before.entry? trace) := by
  intro after
  obtain ⟨ready, progress, hmade, hprogress, rfl, hwritten⟩ := runLevel_inv hrun
  have hready := h.houses hmade
  have hfree := Disk.free_of_locateTable hready.opened
  obtain ⟨hends, hleaves⟩ := Progress.run_inv hprogress
  obtain ⟨hrecords, hidle⟩ := content?_of_leaves hends hleaves
  obtain ⟨hhouses, hsummary, htrace⟩ :=
    (hready.writeTrace progress.recorder).writeSummary_inv hwritten
  rw [hready.writeTrace_eq] at htrace
  refine ⟨hhouses.roomy, hsummary, fun hyes => ?_, fun hno => ?_⟩
  · obtain ⟨groups, hcontent, hflatten⟩ := hrecords hyes
    rw [hcontent] at htrace
    exact ⟨groups, htrace.trans (Disk.entry?_put_self ready (Disk.ne_nil_of_free hfree) _),
      hflatten⟩
  · rw [hidle hno] at htrace
    exact htrace.trans ((Disk.makeFolders_inv hmade).2.made.eq_of_free hfree)

namespace Story

variable {story : List (Errand × RunReport)} {done : Disk}

/-- There is room for the tables of one more run after any number of runs. -/
theorem roomy (h : Story threshold out disk story done) (hroomy : disk.Roomy out trace summary) :
    done.Roomy out trace summary := by
  induction h with
  | start => exact hroomy
  | next earlier hrun ih => exact (tables_of_run ih hrun).1

/-- Every run of a story has let its ticks pass. -/
theorem exists_ticks (h : Story threshold out disk story done)
    (hmem : (errand, report) ∈ story) {tick : Nat} (hle : tick ≤ report.ticks) :
    ∃ now, (River.fresh errand.level errand.program).ticks tick = .ok now := by
  induction h with
  | start => cases hmem
  | next earlier hrun ih =>
      rcases List.mem_append.1 hmem with hmem | hlast
      · exact ih hmem
      · cases List.mem_singleton.1 hlast
        obtain ⟨last, htells⟩ := tells_of_runLevel hrun
        exact htells.ends.exists_ticks hle

/-- The summary is that of the last run. -/
theorem entry?_summary (h : Story threshold out disk story done)
    (hroomy : disk.Roomy out trace summary)
    (hlast : story.getLast? = some (errand, report)) :
    done.entry? summary = some (.file (.summary [report.summaryRow errand.program.size])) := by
  rcases h with _ | ⟨earlier, hrun⟩
  · cases hlast
  · rw [List.getLast?_concat] at hlast
    cases hlast
    exact (tables_of_run (earlier.roomy hroomy) hrun).2.1

end Story

/-- After any number of runs into one output folder, all of which come to their end, the
summary there is that of the last run.  The trace holds the salmon before the first tick and
after every tick of the last run that was traced and had salmon, and it is as it was before
all runs if there was no such run. -/
theorem trace_of_latest {story : List (Errand × RunReport)} {done : Disk}
    (hroomy : disk.Roomy out trace summary) (hstory : Story threshold out disk story done) :
    (∀ errand report, (errand, report) ∈ story → ∀ tick ≤ report.ticks,
      ∃ now, (River.fresh errand.level errand.program).ticks tick = .ok now) ∧
    (∀ errand report, story.getLast? = some (errand, report) →
      done.entry? summary = some (.file (.summary [report.summaryRow errand.program.size]))) ∧
    match latest? story with
    | some (errand, report) => ∃ groups, done.entry? trace = some (.file (.trace groups)) ∧
        groups.flatten = errand.rows report
    | none => done.entry? trace = disk.entry? trace := by
  refine ⟨fun errand report hmem tick hle => hstory.exists_ticks hmem hle,
    fun errand report hlast => hstory.entry?_summary hroomy hlast, ?_⟩
  induction hstory with
  | start => rfl
  | @next story before errand report earlier hrun ih =>
      obtain ⟨-, -, hrecords, hidle⟩ := tables_of_run (earlier.roomy hroomy) hrun
      rw [latest?_concat]
      by_cases hyes : errand.records = true
      · rw [if_pos hyes]
        exact hrecords hyes
      · rw [if_neg hyes, hidle (Bool.eq_false_iff.2 hyes)]
        exact ih

/-- Two ticks in the pond, with a trace. -/
def leftwards : Errand :=
  ⟨.pond, #[.move .left], ⟨2, true, by decide⟩⟩

/-- Three ticks in the pond, without a trace. -/
def upwards : Errand :=
  ⟨.pond, #[.move .up], ⟨3, false, by decide⟩⟩

/-- The disk after two runs in the pond, the second one without a trace. -/
def pondDisk : Disk :=
  (upwards.run standardThreshold ⟨"/", ["out"]⟩
    (leftwards.run standardThreshold ⟨"/", ["out"]⟩ (.blank [] [])).disk).disk

theorem story_pond :
    Story standardThreshold ⟨"/", ["out"]⟩ (.blank [] [])
      [(leftwards, ⟨1, false, 2, 1⟩), (upwards, ⟨1, false, 3, 3⟩)] pondDisk := by
  have hfirst : (leftwards.run standardThreshold ⟨"/", ["out"]⟩ (.blank [] [])).result =
      .ok ⟨1, false, 2, 1⟩ := by decide +kernel
  have hsecond : (upwards.run standardThreshold ⟨"/", ["out"]⟩
      (leftwards.run standardThreshold ⟨"/", ["out"]⟩ (.blank [] [])).disk).result =
      .ok ⟨1, false, 3, 3⟩ := by decide +kernel
  exact .next (.next .start hfirst) hsecond

/-- In the pond the trace is that of the first run, and the summary that of the second. -/
theorem trace_of_latest_pond :
    ∃ trace summary, Disk.Roomy (.blank [] []) ⟨"/", ["out"]⟩ trace summary ∧
      pondDisk.entry? summary = some (.file (.summary [⟨1, 1, 1, false, 3, 3⟩])) ∧
      ∃ groups, pondDisk.entry? trace = some (.file (.trace groups)) ∧
        groups.flatten = leftwards.rows ⟨1, false, 2, 1⟩ := by
  have hplain : Path.Plain ⟨"/", ["out"]⟩ := ⟨.inl rfl, by decide⟩
  have hroomy := Disk.roomy_of_plain hplain (by decide) (Disk.stands_origin_rooted _ rfl)
    (Disk.clear_blank [] [] _) (by decide) (by decide)
  obtain ⟨-, hsummary, htrace⟩ := trace_of_latest hroomy story_pond
  exact ⟨_, _, hroomy, hsummary _ _ rfl, htrace⟩

/-- In the pond the trace is not that of the run which the summary is about. -/
theorem trace_outlives_summary :
    ∃ story done errand report groups,
      Story standardThreshold ⟨"/", ["out"]⟩ (.blank [] []) story done ∧
      story.getLast? = some (errand, report) ∧
      done.entry? ["out", "logs", "run_summary.parquet"] =
        some (.file (.summary [report.summaryRow errand.program.size])) ∧
      done.entry? ["out", "logs", "trace_log.parquet"] = some (.file (.trace groups)) ∧
      groups.flatten ≠ errand.rows report := by
  refine ⟨_, _, upwards, ⟨1, false, 3, 3⟩, [leftwards.rows ⟨1, false, 2, 1⟩], story_pond, rfl,
    ?_, ?_, ?_⟩
  · decide +kernel
  · decide +kernel
  · decide +kernel

end Errand

end RiverPuzzle
