import RiverPuzzle.Proofs.Capping

/-!
# Runs that cannot be recorded

A program that cannot be loaded is refused before anything happens.  A run of a level whose
number is too large for the tables goes wrong when the first row is to be written, which may be
in the middle of the run, at its end, or not before its summary.  The main statement: however it
goes wrong, the tables that are there already stay as they are.
-/

namespace RiverPuzzle

/-- What is there after a run that went wrong: everything that was there before.  Folders on the
way to the tables may be new, and only the last of them if the output folder was there. -/
structure Disk.Spares (disk after : Disk) (out : Path) : Prop where
  folders : disk.MadeFor after out.logs
  last : disk.isFolder out = true → ∀ location,
    after.entry? location ≠ disk.entry? location → after.locate out.logs = .ok location
  trace : ∀ location, after.locateTable out.trace = .ok (some location) →
    after.entry? location = disk.entry? location
  summary : ∀ location, after.locateTable out.summary = .ok (some location) →
    after.entry? location = disk.entry? location

theorem Disk.spares_of_makeFolders {disk ready : Disk} {out : Path}
    (h : disk.makeFolders out.logs = (ready, .ok ())) : disk.Spares ready out := by
  have hmade := (makeFolders_inv h).2
  refine ⟨hmade, fun hout location hnew => ?_, ?_, ?_⟩
  · rw [← Path.parent_child out "logs"] at hout
    exact locate_of_makeFolders hout h hnew
  · exact fun location htable => hmade.made.eq_of_free (free_of_locateTable htable)
  · exact fun location htable => hmade.made.eq_of_free (free_of_locateTable htable)

/-- Nothing has been written, and no row that waits ever will be. -/
structure Recorder.Barred (recorder : Recorder) : Prop where
  closed : recorder.groups = none
  misfits : ∀ row ∈ recorder.pending.toList, ¬row.Fits

namespace Recorder.Barred

variable {recorder : Recorder}

theorem content?_eq (h : recorder.Barred) : recorder.content? = none := by
  rw [content?, h.closed]
  rfl

theorem add (h : recorder.Barred) {rows : List TraceRow} (hrows : ∀ row ∈ rows, ¬row.Fits) :
    (recorder.add rows).Barred where
  closed := h.closed
  misfits := by
    intro row hrow
    rw [pending_add] at hrow
    rcases List.mem_append.1 hrow with hold | hnew
    · exact h.misfits row hold
    · exact hrows row hnew

theorem eq_nil_of_fits (h : recorder.Barred) (hfits : ∀ row ∈ recorder.pending.toList, row.Fits) :
    recorder.pending.toList = [] :=
  List.eq_nil_iff_forall_not_mem.2 fun row hrow => h.misfits row hrow (hfits row hrow)

/-- A flush has nothing to write, or fails. -/
theorem flush_eq (h : recorder.Barred) (door : Except TableFault Unit) :
    recorder.flush door = (recorder, none) ∨
      recorder.flush door = (recorder, some (.overflow {})) := by
  have hflushed := recorder.flushed door
  generalize recorder.flush door = result at hflushed
  cases hflushed with
  | idle hnone => exact .inl rfl
  | wrote hsome hfits hempty hwritten hopen => exact absurd (h.eq_nil_of_fits hfits) hsome
  | failed hmisfit => exact .inr rfl
  | shut hsome hfits hdoor => exact absurd (h.eq_nil_of_fits hfits) hsome

end Recorder.Barred

namespace Progress

variable {tracing : Option Tracing} {progress : Progress} {river : River}

/-- If a run is traced, it is a run of a level whose number does not fit in a table. -/
def Overflows (tracing : Option Tracing) : Prop :=
  ∀ setting ∈ tracing, ¬FitsWord setting.level

/-- Nothing has been written when a part of a run ends, as it should or with a number that does
not fit. -/
structure Stalls (ending : Progress × Option RunFault) : Prop where
  barred : ending.1.recorder.Barred
  fault : ending.2 = none ∨ ending.2 = some (.overflow {})

theorem river_note (progress : Progress) (tracing : Option Tracing) :
    (progress.note tracing).river = progress.river := by
  cases tracing <;> rfl

theorem barred_note (hmisfit : Overflows tracing) (h : progress.recorder.Barred) :
    (progress.note tracing).recorder.Barred := by
  cases tracing with
  | none => exact h
  | some setting =>
      apply h.add
      intro row hrow hfits
      obtain ⟨salmon, -, rfl⟩ := List.mem_map.1 hrow
      exact hmisfit setting rfl (hfits setting.level List.mem_cons_self)

theorem flush_of_barred (h : progress.recorder.Barred) (tracing : Option Tracing) :
    progress.flush tracing = (progress, none) ∨
      progress.flush tracing = (progress, some (.overflow {})) := by
  cases tracing with
  | none => exact .inl rfl
  | some setting =>
      rcases h.flush_eq setting.door with hflush | hflush
      · exact .inl (by simp only [flush, hflush, Option.map_none])
      · exact .inr (by simp only [flush, hflush, Option.map_some, FlushFault.asRunFault])

theorem flushIfFull_of_barred (h : progress.recorder.Barred) (tracing : Option Tracing) :
    progress.flushIfFull tracing = (progress, none) ∨
      progress.flushIfFull tracing = (progress, some (.overflow {})) := by
  cases tracing with
  | none => exact .inl rfl
  | some setting =>
      rw [flushIfFull]
      split
      · exact flush_of_barred h (some setting)
      · exact .inl rfl

/-- A swim in a sound river goes wrong at a flush or not at all. -/
theorem stalls_swim (hmisfit : Overflows tracing) (count : Nat) (hsound : progress.river.Sound)
    (h : progress.recorder.Barred) : Stalls (swim tracing count progress) := by
  induction count generalizing progress with
  | zero => exact ⟨h, .inl rfl⟩
  | succ count ih =>
      rw [swim]
      split
      · exact ⟨h, .inl rfl⟩
      · have hnoted : ((⟨progress.river.drift, progress.ticks + 1, progress.recorder⟩ :
            Progress).note tracing).recorder.Barred := barred_note hmisfit h
        rw [River.tick_eq_drift hsound.flows]
        rcases flushIfFull_of_barred hnoted tracing with hnext | hnext
        · simp only [hnext]
          refine ih ?_ hnoted
          rw [river_note]
          exact hsound.drift
        · simp only [hnext]
          exact ⟨hnoted, .inr rfl⟩

theorem stalls_run (hmisfit : Overflows tracing) (hsound : river.Sound) (cap : Nat) :
    Stalls (run tracing cap river) := by
  have hstart : ((start river).note tracing).recorder.Barred := barred_note hmisfit ⟨rfl, nofun⟩
  have hswim := stalls_swim hmisfit cap (river_note (start river) tracing ▸ hsound) hstart
  rw [run]
  split
  · rename_i last hlast
    rw [hlast] at hswim
    rcases flush_of_barred hswim.barred tracing with hflush | hflush
    · exact hflush ▸ hswim
    · exact hflush ▸ ⟨hswim.barred, .inr rfl⟩
  · rename_i last fault hlast
    rw [hlast] at hswim
    exact hswim

end Progress

section

variable {level : Level} {river : River}

theorem SummaryRow.table_of_misfit {row : SummaryRow} (h : ¬FitsWord row.level) :
    row.table = .error {} :=
  if_neg fun hfits => h (hfits row.level (by simp))

/-- A run whose number does not fit goes wrong for that reason, traced or not, and writes
nothing. -/
theorem runInto_of_misfit (hmisfit : ¬FitsWord level.number) (hsound : river.Sound)
    (threshold : Int) (config : RunConfig) (out : Path) (disk : Disk) :
    ∃ log, runInto threshold level config river out disk = ⟨.error (.overflow {}), disk, log⟩ := by
  have hoverflows : Progress.Overflows (disk.tracing out threshold level config) := by
    intro setting hsetting
    unfold Disk.tracing at hsetting
    split at hsetting
    · cases hsetting
      exact hmisfit
    · cases hsetting
  have hstalls := Progress.stalls_run hoverflows hsound config.maxTicks
  rcases hrun : Progress.run (disk.tracing out threshold level config) config.maxTicks river with
    ⟨after, fault?⟩
  rw [hrun] at hstalls
  have hwritten : disk.writeTrace out after.recorder = disk := by
    rw [Disk.writeTrace, hstalls.barred.content?_eq]
  unfold Disk.tracing at hrun
  rcases hstalls.fault with rfl | rfl
  · have htable : ((after.report level.number).summaryRow river.program.size).table = .error {} :=
      SummaryRow.table_of_misfit hmisfit
    refine ⟨[(after.report level.number).logRecord], ?_⟩
    simp only [runInto, hrun, hwritten, Disk.writeSummary, htable]
  · refine ⟨[], ?_⟩
    simp only [runInto, hrun, hwritten]

/-- A program that cannot be loaded stops a run before it touches anything.  Any other run on a map
of known tiles comes to its end without an output folder, and with one that takes its tables it
goes wrong exactly if the number of the level does not fit in a signed word.  Then no file has
been written or changed, not even by a part of the trace. -/
theorem failed_run_spares_tables (threshold : Int) (level : Level) (program : Program)
    (config : RunConfig) :
    (∀ fault, River.load level program = .error fault → ∀ (out : Option Path) (disk : Disk),
      runLevel threshold level program config out disk = ⟨.error (.load fault), disk, []⟩) ∧
    ∀ river, River.load level program = .ok river → level.tiles.Proper →
      (∀ disk, ∃ report, (runLevel threshold level program config none disk).result = .ok report) ∧
      (config.maxTicks < wordLimit → program.size < wordLimit →
        level.starts.length < wordLimit → ∀ (out : Path) (disk ready : Disk),
        disk.Takes ready out →
        let outcome := runLevel threshold level program config (some out) disk
        ((∃ fault, outcome.result = .error fault) ↔ ¬FitsWord level.number) ∧
          ∀ fault, outcome.result = .error fault →
            fault = .overflow {} ∧ disk.Spares outcome.disk out) := by
  refine ⟨fun fault hload out disk => by simp only [runLevel, hload],
    fun river hload hproper => ?_⟩
  obtain ⟨hpos, hclosed, rfl⟩ := River.load_eq_ok_iff.1 hload
  have hsound := River.sound_fresh hproper hpos hclosed
  refine ⟨exists_report_of_dry hsound hload threshold config, ?_⟩
  intro hcap hsize hstarts out disk ready htakes outcome
  by_cases hnumber : FitsWord level.number
  · obtain ⟨report, hreport⟩ :=
      exists_report_of_takes hsound hload htakes hnumber hcap hsize hstarts threshold
    have hresult : outcome.result = .ok report := hreport
    rw [hresult]
    refine ⟨iff_of_false ?_ fun hmisfit => hmisfit hnumber, fun fault hfault => ?_⟩
    · rintro ⟨fault, hfault⟩
      cases hfault
    · cases hfault
  · obtain ⟨log, hinto⟩ := runInto_of_misfit hnumber hsound threshold config out ready
    have hrun : outcome = ⟨.error (.overflow {}), ready, log⟩ := by
      simp only [outcome, runLevel, hload, htakes.made, hinto]
    rw [hrun]
    refine ⟨iff_of_true ⟨_, rfl⟩ hnumber, fun fault hfault => ?_⟩
    cases hfault
    exact ⟨rfl, Disk.spares_of_makeFolders htakes.made⟩

/-- The pond with the smallest number that does not fit. -/
def Level.flood : Level :=
  { Level.pond with number := wordLimit }

/-- A traced run of the flood leaves the tables of two runs in the pond alone. -/
theorem failed_run_spares_tables_flood :
    ∃ river ready, River.load Level.flood #[.move .left] = .ok river ∧
      Level.flood.tiles.Proper ∧ Errand.pondDisk.Takes ready ⟨"/", ["out"]⟩ ∧
      (RunConfig.standard.maxTicks : Int) < wordLimit ∧ ¬FitsWord Level.flood.number ∧
      ∃ outcome, outcome = runLevel standardThreshold Level.flood #[.move .left] .standard
          (some ⟨"/", ["out"]⟩) Errand.pondDisk ∧
        outcome.result = .error (.overflow {}) ∧
        Errand.pondDisk.Spares outcome.disk ⟨"/", ["out"]⟩ := by
  have hplain : Path.Plain ⟨"/", ["out"]⟩ := ⟨.inl rfl, by decide⟩
  have hout : Errand.pondDisk.Stands ["out"] :=
    (Disk.stands_nil Errand.pondDisk).concat (by decide +kernel)
  have hlogs : Errand.pondDisk.Stands ["out", "logs"] := hout.concat (by decide +kernel)
  obtain ⟨ready, htakes⟩ := Disk.takes_of_plain hplain (by decide)
    (Disk.stands_origin_rooted _ rfl) hlogs.clear (by decide +kernel) (by decide +kernel)
  have hload := River.load_eq_fresh (by decide : 0 < (#[.move .left] : Program).size) (by decide)
    Level.flood
  have hproper : Level.flood.tiles.Proper := Level.pond_proper
  have hcap : (RunConfig.standard.maxTicks : Int) < wordLimit := by decide
  have hmisfit : ¬FitsWord Level.flood.number := by decide
  obtain ⟨-, hothers⟩ :=
    failed_run_spares_tables standardThreshold Level.flood #[.move .left] .standard
  obtain ⟨hfails, hspares⟩ := (hothers _ hload hproper).2 hcap (by decide) (by decide) _ _ _ htakes
  obtain ⟨fault, hfault⟩ := hfails.2 hmisfit
  obtain ⟨rfl, hspared⟩ := hspares fault hfault
  exact ⟨_, ready, hload, hproper, htakes, hcap, hmisfit, _, rfl, hfault, hspared⟩

end

end RiverPuzzle
