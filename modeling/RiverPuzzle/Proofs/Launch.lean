import RiverPuzzle.Main
import RiverPuzzle.Proofs.Ending

/-!
# Launched runs

The command comes to a run only when everything is there that the run needs: a request, a program
with an instruction, a cap, a level and a folder to write to if there is to be one.  This module
lists the courses that the command can take before it comes that far.  The main statement: only a
run touches the disk, so what is refused and what is listed leave it as it is.
-/

namespace RiverPuzzle

theorem Main.exitCode_eq_two_iff {ending : Ending} :
    Main.exitCode ending = 2 ↔ ∃ refusal, ending = .refused refusal := by
  constructor
  · intro h
    cases ending with
    | refused refusal => exact ⟨refusal, rfl⟩
    | _ => simp [Main.exitCode] at h
  · rintro ⟨refusal, rfl⟩
    rfl

namespace Command

/-- All that a run needs, as the arguments and the disk give it. -/
structure Launch (arguments : List (List Char)) (disk : Disk) where
  origin : ProgramOrigin
  settings : Settings
  least : Severity
  program : Program
  config : RunConfig
  level : Level
  log : List LogRecord
  out : Option Path
  requested : Request.ofArguments arguments = .ok (.run origin settings)
  severity_eq : settings.logLevel = .value least
  program_eq : Command.program origin disk = .ok program
  unlisted : settings.listing = false
  config_eq : Command.config settings = .ok config
  level_eq : Command.level settings disk = (.ok level, log)
  out_eq : outFolder settings = .ok out

variable {arguments : List (List Char)} {disk : Disk}

namespace Launch

/-- The run itself. -/
def outcome (launch : Launch arguments disk) : RunOutcome :=
  runLevel standardThreshold launch.level launch.program launch.config launch.out disk

theorem run_eq (launch : Launch arguments disk) :
    run arguments disk =
      runOn launch.settings launch.least launch.program launch.config launch.level launch.log
        disk := by
  simp only [run, launch.requested, runWith, launch.severity_eq, needed, runLogged,
    launch.program_eq, launch.unlisted, launch.config_eq, launch.level_eq, Bool.false_eq_true,
    if_false]

theorem disk_run (launch : Launch arguments disk) :
    (run arguments disk).disk = launch.outcome.disk := by
  simp only [launch.run_eq, runOn, launch.out_eq]
  unfold outcome
  split <;> rfl

/-- A run that has begun is not refused any more. -/
theorem not_refused (launch : Launch arguments disk) (refusal : Refusal) :
    (run arguments disk).ending ≠ .refused refusal := by
  intro hrefused
  simp only [launch.run_eq, runOn, launch.out_eq] at hrefused
  split at hrefused <;> cases hrefused

theorem run_of_report (launch : Launch arguments disk) {report : RunReport}
    (h : launch.outcome.result = .ok report) :
    (run arguments disk).ending = .done ∧
      (run arguments disk).output = report.printed launch.program.size := by
  unfold outcome at h
  simp only [launch.run_eq, runOn, launch.out_eq, h, and_self]

/-- Without an output folder a run leaves the disk as it is. -/
theorem disk_outcome_of_dry (launch : Launch arguments disk) (h : launch.out = none) :
    launch.outcome.disk = disk := by
  unfold outcome runLevel runDry
  rw [h]
  split
  · rfl
  · simp only
    split <;> rfl

end Launch

/-- The ways that the command can go. -/
inductive Course (arguments : List (List Char)) (disk : Disk) : Prop
  | stops (fault : CommandFault) (log : List String)
      (hrun : run arguments disk = stopped fault.ending "" log disk)
  | helps (hrun : run arguments disk = stopped .helped helpText [] disk)
  | lists (lines : List String)
      (hrun : run arguments disk = stopped .done ("\n".intercalate lines ++ "\n") [] disk)
  | launches (launch : Launch arguments disk)

/-- With a program that is not to be listed, the command stops or launches a run. -/
theorem course_of_program {origin : ProgramOrigin} {settings : Settings} {least : Severity}
    {program : Program} (hrequest : Request.ofArguments arguments = .ok (.run origin settings))
    (hleast : settings.logLevel = .value least)
    (hprogram : Command.program origin disk = .ok program) (hlisting : settings.listing = false) :
    Course arguments disk := by
  have hrun : run arguments disk = runLogged origin settings least disk := by
    simp only [run, hrequest, runWith, hleast, needed]
  simp only [runLogged, hprogram, hlisting, Bool.false_eq_true, if_false] at hrun
  cases hconfig : config settings with
  | error fault =>
      rw [hconfig] at hrun
      exact .stops fault _ hrun
  | ok setup =>
      rcases hlevel : level settings disk with ⟨fault | found, log⟩
      · rw [hconfig, hlevel] at hrun
        exact .stops fault _ hrun
      · cases hout : outFolder settings with
        | error fault =>
            simp only [hconfig, hlevel, runOn, hout] at hrun
            exact .stops fault _ hrun
        | ok out =>
            exact .launches ⟨origin, settings, least, program, setup, found, log, out, hrequest,
              hleast, hprogram, hlisting, hconfig, hlevel, hout⟩

/-- Every command goes one of these ways. -/
theorem course (arguments : List (List Char)) (disk : Disk) : Course arguments disk := by
  cases hrequest : Request.ofArguments arguments with
  | error fault =>
      apply Course.stops (.refused (.usage fault)) []
      simp only [run, hrequest, CommandFault.ending]
  | ok request =>
      cases request with
      | help =>
          apply Course.helps
          simp only [run, hrequest]
      | run origin settings =>
          have hrun : run arguments disk = runWith origin settings disk := by
            simp only [run, hrequest]
          rw [runWith] at hrun
          cases hleast : settings.logLevel with
          | nothing =>
              rw [hleast] at hrun
              exact .stops _ _ hrun
          | value least =>
              simp only [hleast, needed, runLogged] at hrun
              cases hprogram : program origin disk with
              | error fault =>
                  rw [hprogram] at hrun
                  exact .stops fault _ hrun
              | ok found =>
                  -- A listing comes before the cap and the level are looked at.
                  cases hlisting : settings.listing with
                  | false => exact course_of_program hrequest hleast hprogram hlisting
                  | true =>
                      simp only [hprogram, hlisting, if_true] at hrun
                      cases hlines : found.listing with
                      | error fault =>
                          rw [hlines] at hrun
                          exact .stops (.broken (.listing fault)) [] hrun
                      | ok lines =>
                          rw [hlines] at hrun
                          exact .lists lines hrun

/-- The disk is as it was unless the command launches a run into an output folder. -/
theorem Course.disk_eq (h : Course arguments disk) :
    (run arguments disk).disk = disk ∨
      ∃ (launch : Launch arguments disk) (out : Path), launch.out = some out ∧
        (run arguments disk).disk = launch.outcome.disk := by
  cases h with
  | stops fault log hrun => exact .inl (by rw [hrun, stopped])
  | helps hrun => exact .inl (by rw [hrun, stopped])
  | lists lines hrun => exact .inl (by rw [hrun, stopped])
  | launches launch =>
      cases hout : launch.out with
      | none => exact .inl (launch.disk_run.trans (launch.disk_outcome_of_dry hout))
      | some out => exact .inr ⟨launch, out, hout, launch.disk_run⟩

/-- Only a run into an output folder touches the disk.  What the command refuses is refused with
the disk as it was and nothing printed, and to list a program changes nothing either. -/
theorem spares_disk_unless_run (arguments : List (List Char)) (disk : Disk) :
    (Main.exitCode (run arguments disk).ending = 2 →
      (run arguments disk).disk = disk ∧ (run arguments disk).output = "") ∧
    (∀ origin settings, Request.ofArguments arguments = .ok (.run origin settings) →
      settings.listing = true → (run arguments disk).disk = disk) ∧
    ((run arguments disk).disk ≠ disk →
      ∃ (launch : Launch arguments disk) (out : Path), launch.out = some out ∧
        (run arguments disk).disk = launch.outcome.disk) := by
  have hcourse := course arguments disk
  refine ⟨fun hcode => ?_, fun origin settings hrequest hlisting => ?_,
    hcourse.disk_eq.resolve_left⟩
  · obtain ⟨refusal, hrefused⟩ := Main.exitCode_eq_two_iff.1 hcode
    cases hcourse with
    | stops fault log hrun =>
        rw [hrun]
        exact ⟨rfl, rfl⟩
    | helps hrun =>
        rw [hrun] at hrefused
        cases hrefused
    | lists lines hrun =>
        rw [hrun] at hrefused
        cases hrefused
    | launches launch => exact absurd hrefused (launch.not_refused refusal)
  · apply hcourse.disk_eq.resolve_right
    rintro ⟨launch, -, -, -⟩
    cases hrequest.symm.trans launch.requested
    cases hlisting.symm.trans launch.unlisted

/-- With a folder to write to, a swim that may not last a tick is refused and a swim that is only
listed is done, and the creek lies there as before. -/
theorem spares_disk_unless_run_creekside :
    ∃ capped listed, capped = swimming "swim.salmon" ++
        ["--out-dir", "out", "--max-ticks", "0"].map String.toList ∧
      listed = swimming "swim.salmon" ++ ["--out-dir", "out", "--listing"].map String.toList ∧
      (run capped .creekside).ending = .refused (.cap {}) ∧
      (run capped .creekside).disk = .creekside ∧ (run capped .creekside).output = "" ∧
      (run listed .creekside).output = "0  move left\n" ∧
      (run listed .creekside).disk = .creekside := by
  refine ⟨_, _, rfl, rfl, ?_⟩
  generalize hcapped : swimming "swim.salmon" ++ ["--out-dir", "out", "--max-ticks", "0"].map
    String.toList = capped
  generalize hlisted : swimming "swim.salmon" ++ ["--out-dir", "out", "--listing"].map
    String.toList = listed
  have hrefused : (run capped .creekside).ending = .refused (.cap {}) := by
    rw [← hcapped]
    decide +kernel
  have houtput : (run listed .creekside).output = "0  move left\n" := by
    rw [← hlisted]
    decide +kernel
  have hrequest : ∃ origin settings, Request.ofArguments listed = .ok (.run origin settings) ∧
      settings.listing = true := by
    refine ⟨.file (.value ⟨"", ["shelf", "swim.salmon"]⟩),
      { shelfSettings with outDir := some (.value ⟨"", ["out"]⟩), listing := true }, ?_, rfl⟩
    rw [← hlisted]
    decide +kernel
  obtain ⟨origin, settings, hlisting⟩ := hrequest
  have hcode := Main.exitCode_eq_two_iff.2 ⟨_, hrefused⟩
  obtain ⟨hdisk, hsilent⟩ := (spares_disk_unless_run capped .creekside).1 hcode
  exact ⟨hrefused, hdisk, hsilent, houtput,
    (spares_disk_unless_run listed .creekside).2.1 origin settings hlisting.1 hlisting.2⟩

end Command

end RiverPuzzle
