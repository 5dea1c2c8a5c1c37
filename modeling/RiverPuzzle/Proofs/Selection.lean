import RiverPuzzle.Proofs.Launch
import RiverPuzzle.Proofs.LevelOrder
import RiverPuzzle.Proofs.PrintedReport

/-!
# The level that is run

Several files of a folder may hold levels with one number.  Their levels come in the order of their
paths, and the command picks the last of those with the number that it is given.  The main
statement: the command runs the level in the last such file and prints how the run ended, and it
complains that there is no such level exactly if no file holds one.
-/

namespace RiverPuzzle

/-- The last item that is sought in a list comes after all others that are. -/
theorem find?_reverse_of_pairwise {α : Type} {order : α → α → Prop} {items : List α}
    {sought : α → Bool} {item : α} (hitems : items.Pairwise order)
    (h : items.reverse.find? sought = some item) :
    ∀ other ∈ items, sought other = true → other = item ∨ order other item := by
  obtain ⟨-, later, earlier, hsplit, hlater⟩ := List.find?_eq_some_iff_append.1 h
  have hreverse := List.pairwise_reverse.2 hitems
  rw [hsplit, List.pairwise_append, List.pairwise_cons] at hreverse
  intro other hother hsought
  rw [← List.mem_reverse, hsplit, List.mem_append, List.mem_cons] at hother
  rcases hother with hmem | rfl | hmem
  · have hnot := hlater other hmem
    rw [hsought] at hnot
    cases hnot
  · exact .inl rfl
  · exact .inr (hreverse.2.1.1 other hmem)

namespace Disk

/-- A file of the folder, with the name of a level file, in which the level is drawn. -/
def Holds (disk : Disk) (folder path : Path) (level : Level) : Prop :=
  disk.Offers folder path ∧
    ∃ text, disk.readText path = .ok text ∧ Level.ofText text = .ok level

/-- Of the files of the folder that hold levels with the number, the last one holds the level. -/
structure HoldsLast (disk : Disk) (folder : Path) (number : Int) (path : Path) (level : Level) :
    Prop where
  holds : disk.Holds folder path level
  number_eq : level.number = number
  last : ∀ other drawn, disk.Holds folder other drawn → drawn.number = number →
    other = path ∨ other.parts < path.parts

end Disk

namespace Command

variable {arguments : List (List Char)} {disk : Disk} {origin : ProgramOrigin}
  {settings : Settings} {folder path : Path} {number maxTicks : Int} {levels : List Level}
  {level : Level} {text : List Char} {program : Program}

theorem holds_iff : disk.Holds folder path level ↔
    (path, level) ∈ (Level.found disk (disk.levelFiles folder)).mergeSort
      fun one other => one.2.number ≤ other.2.number := by
  rw [List.mem_mergeSort, Level.mem_found_iff, Level.mem_levelFiles_iff_offers,
    Level.ofFile_eq_ok_iff, Disk.Holds]

/-- Of the levels that a folder yields, the one in the last file with the number is picked. -/
theorem pick?_of_levels (hlevels : (Level.ofFolder disk folder).levels = .ok levels)
    (number : Int) :
    (pick? number levels = none ∧ ¬∃ path level, disk.Holds folder path level ∧
        level.number = number) ∨
      ∃ path level, pick? number levels = some level ∧
        disk.HoldsLast folder number path level := by
  -- The levels carry the paths of their files along, so that a pick among them is one of a file.
  rw [pick?, (Level.ofFolder_of_levels hlevels).1, ← List.map_reverse, List.find?_map]
  cases hfind : ((Level.found disk (disk.levelFiles folder)).mergeSort
      fun one other => one.2.number ≤ other.2.number).reverse.find?
        ((fun level : Level => decide (level.number = number)) ∘ Prod.snd) with
  | none =>
      refine .inl ⟨rfl, ?_⟩
      rintro ⟨path, level, hholds, hnumber⟩
      have hmem := List.mem_reverse.2 (holds_iff.1 hholds)
      exact List.find?_eq_none.1 hfind _ hmem (decide_eq_true hnumber)
  | some held =>
      have hmem := List.mem_reverse.1 (List.mem_of_find?_eq_some hfind)
      have hfound := List.find?_some hfind
      have hnumber : held.2.number = number := of_decide_eq_true hfound
      refine .inr ⟨held.1, held.2, rfl, holds_iff.2 hmem, hnumber, ?_⟩
      intro other drawn hholds hdrawn
      have hfiles := Level.pairwise_levelFiles disk folder
      rcases find?_reverse_of_pairwise (Level.pairwise_found hfiles) hfind _ (holds_iff.1 hholds)
        (decide_eq_true hdrawn) with rfl | hlt | ⟨-, hparts⟩
      -- A level sorted before the one picked has a smaller number or a smaller path.
      · exact .inl rfl
      · exact absurd (hdrawn.trans hnumber.symm) (Int.ne_of_lt hlt)
      · exact .inr hparts

/-- The command accepts the arguments: they ask for a run, and it is known from which severity on
a record is logged. -/
structure Accepts (arguments : List (List Char)) (origin : ProgramOrigin) (settings : Settings) :
    Prop where
  requested : Request.ofArguments arguments = .ok (.run origin settings)
  severity : ∃ least, settings.logLevel = .value least

theorem program_eq_ok (hsource : sourceText origin disk = .ok text)
    (hcompiled : Program.ofText text = .ok program) (hsize : 0 < program.size) :
    Command.program origin disk = .ok program := by
  have hempty := Program.isEmpty_eq_false_iff.2 hsize
  simp only [Command.program, hsource, hcompiled, hempty, Bool.false_eq_true, if_false]

theorem exists_config (hmaxTicks : settings.maxTicks = .value maxTicks) (hcap : 1 ≤ maxTicks) :
    ∃ config, RunConfig.ofCap maxTicks settings.traced = .ok config ∧
      Command.config settings = .ok config := by
  refine ⟨_, dif_pos hcap, ?_⟩
  rw [config, hmaxTicks, needed]
  simp only [RunConfig.ofCap, dif_pos hcap]

/-- The level is picked from what the folder yields. -/
theorem level_of_levels (hfolder : settings.levelsDir = .value folder)
    (hlevels : (Level.ofFolder disk folder).levels = .ok levels) :
    Command.level settings disk =
      (choose settings.level folder levels, (Level.ofFolder disk folder).log) := by
  rw [Command.level, hfolder, needed]
  simp only
  split
  · rename_i fault log hfault
    rw [hfault] at hlevels
    cases hlevels
  · rename_i others log hothers
    rw [hothers] at hlevels
    cases hlevels
    rw [hothers]

/-- A run of a well-formed program on a well-formed level comes to its end and is reported. -/
theorem report_of_launch (launch : Launch arguments disk) (hout : launch.out = none)
    (hlevel : Level.ofText text = .ok launch.level) :
    ∃ report, (runLevel standardThreshold launch.level launch.program launch.config none
        disk).result = .ok report ∧ (run arguments disk).ending = .done ∧
      Text.fields (run arguments disk).output = report.fields launch.program.size := by
  obtain ⟨hsound, hload⟩ := sound_of_program launch.program_eq hlevel
  obtain ⟨report, hreport⟩ :=
    exists_report_of_dry hsound hload standardThreshold launch.config disk
  have houtcome : launch.outcome.result = .ok report := by
    rw [Launch.outcome, hout, hreport]
  obtain ⟨hending, houtput⟩ := launch.run_of_report houtcome
  exact ⟨report, hreport, hending, by rw [houtput, report.fields_printed]⟩

/-- With a program of at least one instruction, a cap of at least one tick, a folder that yields
levels and no folder to write to, the command complains that there is no level with the given
number exactly if no well-formed file of the folder holds one.  Otherwise it runs the level in the
last such file and prints how the run ended and how long the program is. -/
theorem runs_last_held (haccepts : Accepts arguments origin settings)
    (hlisting : settings.listing = false) (hdry : settings.outDir = none)
    (hfolder : settings.levelsDir = .value folder) (hnumber : settings.level = .value number)
    (hmaxTicks : settings.maxTicks = .value maxTicks) (hcap : 1 ≤ maxTicks)
    (hsource : sourceText origin disk = .ok text) (hcompiled : Program.ofText text = .ok program)
    (hsize : 0 < program.size) (hlevels : (Level.ofFolder disk folder).levels = .ok levels) :
    ((Main.exitCode (run arguments disk).ending = 2 ∧
        Main.complaint (run arguments disk).ending = ["salmon-run: error: " ++
          ("level " ++ toString number ++ " not found in " ++ folder.text)]) ↔
      ¬∃ path level, disk.Holds folder path level ∧ level.number = number) ∧
    ((∃ path level, disk.Holds folder path level ∧ level.number = number) →
      ∃ path level config report, disk.HoldsLast folder number path level ∧
        RunConfig.ofCap maxTicks settings.traced = .ok config ∧
        (runLevel standardThreshold level program config none disk).result = .ok report ∧
        (run arguments disk).ending = .done ∧
        Text.fields (run arguments disk).output = report.fields program.size) := by
  obtain ⟨least, hleast⟩ := haccepts.severity
  obtain ⟨config, hcapped, hconfig⟩ := exists_config hmaxTicks hcap
  have hprogram := program_eq_ok hsource hcompiled hsize
  have hlevel := level_of_levels hfolder hlevels
  rw [hnumber, choose, needed] at hlevel
  rcases pick?_of_levels hlevels number with ⟨hpick, hnone⟩ | ⟨path, level, hpick, hlast⟩
  · have hend : (run arguments disk).ending = .refused (.noLevel number folder) := by
      simp only [run, haccepts.requested, runWith, hleast, needed, runLogged, hprogram, hlisting,
        hconfig, hlevel, hpick, Bool.false_eq_true, if_false, stopped, CommandFault.ending]
    refine ⟨iff_of_true ?_ hnone, fun hsome => absurd hsome hnone⟩
    rw [hend]
    exact ⟨rfl, rfl⟩
  · simp only [hpick] at hlevel
    obtain ⟨-, drawing, -, hdraws⟩ := hlast.holds
    have hout : outFolder settings = .ok none := by rw [outFolder, hdry]
    let launch : Launch arguments disk := ⟨origin, settings, least, program, config, level, _, none,
      haccepts.requested, hleast, hprogram, hlisting, hconfig, hlevel, hout⟩
    obtain ⟨report, hreport, hdone, hfields⟩ := report_of_launch launch rfl hdraws
    refine ⟨iff_of_false ?_ (not_not_intro ⟨path, level, hlast.holds, hlast.number_eq⟩),
      fun _ => ⟨path, level, config, report, hlast, hcapped, hreport, hdone, hfields⟩⟩
    rintro ⟨hcode, -⟩
    obtain ⟨refusal, hrefused⟩ := Main.exitCode_eq_two_iff.1 hcode
    exact launch.not_refused refusal hrefused

/-- The arguments that ask for a swim to the left on a level of the shelf. -/
def picking (number : String) : List (List Char) :=
  ["--source", "move left;", "--levels-dir", "shelf", "--level", number].map String.toList

theorem accepts_picking (number : String) (asked : Int)
    (h : Request.ofArguments (picking number) =
      .ok (.run (.text "move left;".toList) { shelfSettings with level := .value asked })) :
    Accepts (picking number) (.text "move left;".toList)
      { shelfSettings with level := .value asked } :=
  ⟨h, .warning, rfl⟩

/-- Of two creeks with one number the second is swum, and there is no creek with another number. -/
theorem runs_last_held_shelf :
    ∃ disk : Disk, disk = .shelf [("level1.txt", .file Level.creekBytes),
        ("level2.txt", .file Level.creekBytes)] ∧
      (∃ level report, disk.HoldsLast ⟨"", ["shelf"]⟩ 7 ⟨"", ["shelf", "level2.txt"]⟩ level ∧
        (run (picking "7") disk).ending = .done ∧
        Text.fields (run (picking "7") disk).output = RunReport.fields report 1) ∧
      Main.exitCode (run (picking "8") disk).ending = 2 := by
  refine ⟨_, rfl, ?_⟩
  generalize hdisk : Disk.shelf _ = disk
  have hfolder : disk.folder? ⟨"", ["shelf"]⟩ = .ok (some ["shelf"]) := by
    rw [← hdisk]
    decide +kernel
  have hnames : disk.names ⟨"", ["shelf"]⟩ = .ok ["level2.txt", "level1.txt"] := by
    rw [← hdisk]
    decide +kernel
  have hnumbers : ∀ name ∈ ["level2.txt", "level1.txt"],
      (Level.inFile? disk (Path.child ⟨"", ["shelf"]⟩ name)).map Level.number = some 7 := by
    rw [← hdisk]
    decide +kernel
  have htexts := Level.isText_of_names hnames (by
    rw [← hdisk]
    decide +kernel)
  have hlevels := congrArg LevelFolder.levels (Level.ofFolder_of_texts hnames htexts)
  have hheld : ∀ path level, disk.Holds ⟨"", ["shelf"]⟩ path level → level.number = 7 ∧
      (path = ⟨"", ["shelf", "level2.txt"]⟩ ∨ path = ⟨"", ["shelf", "level1.txt"]⟩) := by
    rintro path level ⟨hoffers, hdraws⟩
    rw [← Level.mem_levelFiles_iff_offers, Level.levelFiles_eq hnames,
      Level.mem_filesAmong_iff] at hoffers
    obtain ⟨name, -, hname, rfl⟩ := hoffers
    have hnumber := hnumbers name hname
    rw [Level.inFile?, Level.ofFile_eq_ok_iff.2 hdraws] at hnumber
    refine ⟨Option.some.inj hnumber, ?_⟩
    rcases List.mem_pair.1 hname with rfl | rfl
    · exact .inl rfl
    · exact .inr rfl
  obtain ⟨creek, hcreek, hnumber⟩ := Option.map_eq_some_iff.1 (hnumbers "level2.txt" (by decide))
  have hoffers : disk.Offers ⟨"", ["shelf"]⟩ ⟨"", ["shelf", "level2.txt"]⟩ :=
    ⟨["shelf"], "level2.txt", ['2'], hfolder, by rw [← hdisk]; decide +kernel, by decide, rfl⟩
  have hholds : disk.Holds ⟨"", ["shelf"]⟩ ⟨"", ["shelf", "level2.txt"]⟩ creek :=
    ⟨hoffers, Level.ofFile_eq_ok_iff.1 (Level.ofFile_of_inFile? hcreek)⟩
  have hcompiled : Program.ofText "move left;".toList = .ok #[.move .left] := by decide +kernel
  have hfound := runs_last_held (accepts_picking "7" 7 (by decide +kernel))
    rfl rfl rfl rfl rfl (by decide) rfl hcompiled (by decide) hlevels
  have hmissing := runs_last_held (accepts_picking "8" 8 (by decide +kernel))
    rfl rfl rfl rfl rfl (by decide) rfl hcompiled (by decide) hlevels
  obtain ⟨path, level, config, report, hlast, -, -, hdone, hfields⟩ :=
    hfound.2 ⟨_, creek, hholds, hnumber⟩
  rcases (hheld path level hlast.holds).2 with rfl | rfl
  · refine ⟨⟨level, report, hlast, hdone, hfields⟩, (hmissing.1.2 ?_).1⟩
    rintro ⟨path, level, hother, hasked⟩
    cases (hheld path level hother).1.symm.trans hasked
  · rcases hlast.last _ _ hholds hnumber with heq | hlt
    · exact absurd heq (by decide)
    · exact absurd hlt (by decide +kernel)

end Command

end RiverPuzzle
