import RiverPuzzle.Command.Line
import RiverPuzzle.Proofs.Arguments
import RiverPuzzle.Proofs.FinishedRun
import RiverPuzzle.Proofs.LevelFolder
import RiverPuzzle.Proofs.Wording

/-!
# How the command ends

The command is done or says what it refuses, as long as every level file in its folder holds a
level and no output folder is given.  There are two ways out of this: a program file whose path
no disk can hold, or whose bytes are no text; and a value that the command comes to need when a
flag was given none.
-/

namespace RiverPuzzle

/-- The command ends as it is meant to: it is done, or it says what it refuses. -/
def Ending.Orderly (ending : Ending) : Prop :=
  ending = .done ∨ ∃ refusal, ending = .refused refusal

/-- What stopped the command is something that it refuses. -/
def CommandFault.IsRefusal (fault : CommandFault) : Prop :=
  ∃ refusal, fault = .refused refusal

theorem CommandFault.IsRefusal.orderly {fault : CommandFault} (h : fault.IsRefusal) :
    fault.ending.Orderly := by
  obtain ⟨refusal, rfl⟩ := h
  exact .inr ⟨refusal, rfl⟩

theorem Ending.not_orderly_broken (breakdown : Breakdown) : ¬Orderly (.broken breakdown) := by
  rintro (hdone | ⟨refusal, hrefused⟩)
  · cases hdone
  · cases hrefused

namespace Disk

variable {disk : Disk} {path folder : Path}

/-- What lies at the path takes the command by surprise: no disk can hold the path, or its bytes
are no text. -/
def Baffles (disk : Disk) (path : Path) : Prop :=
  path.hasZero = true ∨ disk.isText path = false

/-- The path leads to a folder in which every file that should hold a level does. -/
def HoldsLevels (disk : Disk) (folder : Path) : Prop :=
  ∃ location, disk.folder? folder = .ok (some location) ∧
    ∀ path ∈ disk.levelFiles folder, ∃ level, Level.ofFile disk path = .ok level

theorem readText_of_zero (h : path.hasZero = true) :
    disk.readText path = .error (.disk .zeroInPath) := by
  rw [readText, read, if_pos h]

theorem readText_ne_zeroInPath (h : path.hasZero = false) :
    disk.readText path ≠ .error (.disk .zeroInPath) := by
  intro hread
  unfold readText at hread
  split at hread
  · rename_i fault hfault
    cases hread
    unfold read at hfault
    rw [h, if_neg Bool.false_ne_true] at hfault
    split at hfault
    · cases hfault
    · split at hfault <;> cases hfault
  · split at hread <;> cases hread

theorem isText_of_ofFile_eq_ok {level : Level} (h : Level.ofFile disk path = .ok level) :
    disk.isText path = true := by
  by_contra hnot
  obtain ⟨fault, hfault⟩ := Level.ofFile_of_not_isText (Bool.not_eq_true _ ▸ hnot)
  cases hfault.symm.trans h

end Disk

namespace Level

variable {disk : Disk} {path : Path} {level : Level}

theorem exists_text_of_ofFile (h : ofFile disk path = .ok level) :
    ∃ text, ofText text = .ok level := by
  unfold ofFile at h
  split at h
  · cases h
  · rename_i text _
    split at h
    · cases h
    · rename_i found hfound
      cases h
      exact ⟨text, hfound⟩

end Level

namespace Command

variable {disk : Disk} {path folder : Path} {origin : ProgramOrigin} {settings : Settings}
  {fault : CommandFault}

theorem fileText_of_baffles (h : disk.Baffles path) :
    ∃ fault, fileText path disk = .error (.broken (.read fault)) := by
  rcases h with hzero | htext
  · rw [fileText, Disk.readText_of_zero hzero]
    exact ⟨_, rfl⟩
  · unfold Disk.isText at htext
    split at htext
    · rename_i fault hread
      rw [fileText, hread]
      exact ⟨_, rfl⟩
    · cases htext

/-- A file that cannot be read is refused. -/
theorem fileText_of_unreadable {reason : DiskFault} (hzero : path.hasZero = false)
    (hread : disk.readText path = .error (.disk reason)) :
    fileText path disk = .error (.refused (.unreadable path reason)) := by
  cases reason with
  | zeroInPath => exact absurd hread (Disk.readText_ne_zeroInPath hzero)
  | atPath error place => rw [fileText, hread]

theorem isRefusal_of_fileText (hbaffles : ¬disk.Baffles path)
    (h : fileText path disk = .error fault) : fault.IsRefusal := by
  obtain ⟨hzero, htext⟩ := not_or.1 hbaffles
  rcases hread : disk.readText path with (reason | reason) | text
  · rw [fileText_of_unreadable (Bool.not_eq_true _ ▸ hzero) hread] at h
    cases h
    exact ⟨_, rfl⟩
  · refine absurd ?_ htext
    rw [Disk.isText, hread]
  · rw [fileText, hread] at h
    cases h

/-- A program that is refused is refused for a reason. -/
theorem isRefusal_of_program (hgiven : origin ≠ .file .nothing)
    (hreads : ∀ path, origin = .file (.value path) → ¬disk.Baffles path)
    (h : program origin disk = .error fault) : fault.IsRefusal := by
  have hsource : ∀ fault, sourceText origin disk = .error fault → fault.IsRefusal := by
    intro fault hfault
    cases origin with
    | text source => cases hfault
    | file given =>
        obtain ⟨path, rfl⟩ := Given.exists_value fun hnothing => hgiven (congrArg _ hnothing)
        exact isRefusal_of_fileText (hreads path rfl) hfault
  unfold program at h
  split at h
  · rename_i hreason
    cases h
    exact hsource _ hreason
  · split at h
    · cases h
      exact ⟨_, rfl⟩
    · split at h
      · cases h
        exact ⟨_, rfl⟩
      · cases h

theorem exists_text_of_program {program : Program} (h : Command.program origin disk = .ok program) :
    ∃ source, Program.ofText source = .ok program ∧ program.isEmpty = false := by
  unfold Command.program at h
  split at h
  · cases h
  · rename_i source _
    split at h
    · cases h
    · rename_i hsource
      split at h
      · cases h
      · rename_i hempty
        cases h
        exact ⟨source, hsource, Bool.not_eq_true _ ▸ hempty⟩

theorem sound_of_program {program : Program} {level : Level} {text : List Char}
    (h : Command.program origin disk = .ok program) (hlevel : Level.ofText text = .ok level) :
    (River.fresh level program).Sound ∧
      River.load level program = .ok (River.fresh level program) := by
  obtain ⟨source, hsource, hempty⟩ := exists_text_of_program h
  have hsize := Program.isEmpty_eq_false_iff.1 hempty
  have hclosed := Program.closed_of_ofText hsource
  exact ⟨River.sound_fresh (Level.proper_of_ofText hlevel) hsize hclosed,
    River.load_eq_fresh hsize hclosed level⟩

theorem isRefusal_of_config (hgiven : settings.maxTicks ≠ .nothing)
    (h : config settings = .error fault) : fault.IsRefusal := by
  obtain ⟨maxTicks, hmaxTicks⟩ := Given.exists_value hgiven
  rw [config, hmaxTicks, needed] at h
  simp only at h
  split at h
  · cases h
    exact ⟨_, rfl⟩
  · cases h

/-- A folder in which every level file holds a level can be read. -/
theorem exists_levels (hholds : disk.HoldsLevels folder) :
    ∃ levels log, Level.ofFolder disk folder = ⟨.ok levels, log⟩ ∧
      ∀ level ∈ levels, ∃ text, Level.ofText text = .ok level := by
  obtain ⟨location, hplace, hlevels⟩ := hholds
  have htexts : ∀ path ∈ disk.levelFiles folder, disk.isText path :=
    fun path hpath => (hlevels path hpath).elim fun _ => Disk.isText_of_ofFile_eq_ok
  refine ⟨_, _, Level.ofFolder_of_texts (Disk.names_eq hplace) htexts, fun found hfound => ?_⟩
  obtain ⟨path, -, hfile⟩ := List.mem_filterMap.1 (List.mem_mergeSort.1 hfound)
  exact Level.exists_text_of_ofFile (Level.ofFile_of_inFile? hfile)

/-- In a folder of levels a level is found, or it is refused to look for it. -/
theorem level_cases (hfolder : settings.levelsDir = .value folder)
    (hgiven : settings.level ≠ .nothing) (hholds : disk.HoldsLevels folder) :
    (∃ fault log, level settings disk = (.error fault, log) ∧ fault.IsRefusal) ∨
      ∃ found log text, level settings disk = (.ok found, log) ∧ Level.ofText text = .ok found := by
  obtain ⟨number, hnumber⟩ := Given.exists_value hgiven
  obtain ⟨levels, log, hread, htexts⟩ := exists_levels hholds
  simp only [level, hfolder, needed, hread, choose, hnumber]
  split
  · exact .inl ⟨_, _, rfl, _, rfl⟩
  · rename_i found hfound
    have hmem := List.mem_reverse.1 (List.mem_of_find?_eq_some hfound)
    obtain ⟨text, htext⟩ := htexts found hmem
    exact .inr ⟨found, _, text, rfl, htext⟩

theorem runOn_done (hout : settings.outDir = none) {program : Program} {level : Level}
    (hsound : (River.fresh level program).Sound)
    (hload : River.load level program = .ok (River.fresh level program)) (least : Severity)
    (config : RunConfig) (log : List LogRecord) :
    (runOn settings least program config level log disk).ending = .done := by
  obtain ⟨report, hreport⟩ :=
    exists_report_of_dry hsound hload standardThreshold config disk
  simp only [runOn, outFolder, hout, hreport]

/-- The command comes to need what is not there.  First it needs the least severity, then the
program; either the words for all instructions, to list them, or the cap on the ticks; the folder
of the levels and the number of one at last. -/
inductive Lacks (origin : ProgramOrigin) (settings : Settings) (disk : Disk) : Prop
  | severity (hnone : settings.logLevel = .nothing)
  | file (hnone : origin = .file .nothing)
  | words {program : Program} {fault : WordingFault}
      (hprogram : Command.program origin disk = .ok program) (hlisting : settings.listing = true)
      (hfault : program.listing = .error fault)
  | cap {program : Program} (hprogram : Command.program origin disk = .ok program)
      (hlisting : settings.listing = false) (hnone : settings.maxTicks = .nothing)
  | level {program : Program} {setup : RunConfig}
      (hprogram : Command.program origin disk = .ok program) (hlisting : settings.listing = false)
      (hconfig : config settings = .ok setup)
      (hnone : settings.levelsDir = .nothing ∨ settings.level = .nothing)

theorem orderly_runWith (hlacks : ¬Lacks origin settings disk) (hout : settings.outDir = none)
    (hlevels : ∀ folder, settings.levelsDir = .value folder → disk.HoldsLevels folder)
    (hreads : ∀ path, origin = .file (.value path) → ¬disk.Baffles path) :
    (runWith origin settings disk).ending.Orderly := by
  obtain ⟨least, hleast⟩ := Given.exists_value fun hnone => hlacks (.severity hnone)
  rw [runWith, hleast, needed]
  simp only [runLogged]
  cases hprogram : program origin disk with
  | error fault =>
      exact (isRefusal_of_program (fun hnone => hlacks (.file hnone)) hreads hprogram).orderly
  | ok found =>
      cases hlisting : settings.listing with
      | true =>
          cases hwords : found.listing with
          | error fault => exact absurd (.words hprogram hlisting hwords) hlacks
          | ok lines => exact .inl (by simp only [hwords, if_true, stopped])
      | false =>
          simp only [Bool.false_eq_true, if_false]
          cases hconfig : config settings with
          | error fault =>
              have hcap : settings.maxTicks ≠ .nothing :=
                fun hnone => hlacks (.cap hprogram hlisting hnone)
              exact (isRefusal_of_config hcap hconfig).orderly
          | ok setup =>
              obtain ⟨folder, hfolder⟩ := Given.exists_value fun hnone =>
                hlacks (.level hprogram hlisting hconfig (.inl hnone))
              have hnumber : settings.level ≠ .nothing :=
                fun hnone => hlacks (.level hprogram hlisting hconfig (.inr hnone))
              rcases level_cases hfolder hnumber (hlevels folder hfolder) with
                ⟨fault, log, hlevel, hrefusal⟩ | ⟨drawn, log, text, hlevel, htext⟩
              · simp only [hlevel]
                exact hrefusal.orderly
              · obtain ⟨hsound, hload⟩ := sound_of_program hprogram htext
                simp only [hlevel]
                exact .inl (runOn_done hout hsound hload least setup log)

/-- What is needed and not there breaks the command off. -/
theorem broken_of_lacks (h : Lacks origin settings disk)
    (hlevels : ∀ folder, settings.levelsDir = .value folder → disk.HoldsLevels folder) :
    ∃ breakdown, (runWith origin settings disk).ending = .broken breakdown := by
  cases hleast : settings.logLevel with
  | nothing =>
      simp only [runWith, hleast, needed]
      exact ⟨_, rfl⟩
  | value least =>
      simp only [runWith, hleast, needed, runLogged]
      cases h with
      | severity hnone => cases hleast.symm.trans hnone
      | file hnone =>
          simp only [program, sourceText, hnone, needed]
          exact ⟨_, rfl⟩
      | words hprogram hlisting hfault =>
          simp only [hprogram, hlisting, if_true, hfault]
          exact ⟨_, rfl⟩
      | cap hprogram hlisting hnone =>
          simp only [hprogram, hlisting, Bool.false_eq_true, if_false, config, hnone, needed]
          exact ⟨_, rfl⟩
      | level hprogram hlisting hconfig hnone =>
          simp only [hprogram, hlisting, Bool.false_eq_true, if_false, hconfig, level]
          cases hfolder : settings.levelsDir with
          | nothing => exact ⟨_, rfl⟩
          | value folder =>
              have hnumber := hnone.resolve_left (by rw [hfolder]; exact nofun)
              obtain ⟨levels, log, hread, -⟩ := exists_levels (hlevels folder hfolder)
              simp only [needed, hread, choose, hnumber]
              exact ⟨_, rfl⟩

theorem broken_of_baffles (h : disk.Baffles path) :
    ∃ breakdown, (runWith (.file (.value path)) settings disk).ending = .broken breakdown := by
  obtain ⟨fault, hfault⟩ := fileText_of_baffles h
  cases hleast : settings.logLevel with
  | nothing =>
      simp only [runWith, hleast, needed]
      exact ⟨_, rfl⟩
  | value least =>
      simp only [runWith, hleast, needed, runLogged, program, sourceText, hfault]
      exact ⟨_, rfl⟩

theorem refused_of_unreadable {reason : DiskFault} (hgiven : settings.logLevel ≠ .nothing)
    (hzero : path.hasZero = false) (hread : disk.readText path = .error (.disk reason)) :
    (runWith (.file (.value path)) settings disk).ending = .refused (.unreadable path reason) := by
  obtain ⟨least, hleast⟩ := Given.exists_value hgiven
  simp only [runWith, hleast, needed, runLogged, program, sourceText,
    fileText_of_unreadable hzero hread, stopped, CommandFault.ending]

/-- With a value for all that needs one, nothing is lacking but the words for a program that is to
be listed and has too many instructions for that. -/
theorem Lacks.exists_long (h : Lacks origin settings disk) (hgiven : origin ≠ .file .nothing)
    (hvalued : settings.Valued) :
    settings.listing = true ∧ ∃ program, Command.program origin disk = .ok program ∧
      10 ^ Text.maxNumeralDigits ≤ program.size := by
  cases h with
  | severity hnone => exact absurd hnone hvalued.logLevel
  | file hnone => exact absurd hnone hgiven
  | words hprogram hlisting hfault =>
      obtain ⟨source, hsource, -⟩ := exists_text_of_program hprogram
      refine ⟨hlisting, _, hprogram, Nat.le_of_not_lt fun hsize => ?_⟩
      obtain ⟨lines, hlines⟩ := Program.exists_listing_of_text hsource hsize
      cases hlines.symm.trans hfault
  | cap hprogram hlisting hnone => exact absurd hnone hvalued.maxTicks
  | level hprogram hlisting hconfig hnone =>
      rcases hnone with hnone | hnone
      · exact absurd hnone hvalued.levelsDir
      · exact absurd hnone hvalued.level

/-- With no output folder and a folder whose level files all hold levels, the command is done or
says what it refuses, unless its program is in a file that takes it by surprise, or it lacks what
it comes to need.  A program file that cannot be read is among what it refuses.  Nothing is
lacking where no lone double dash stands for a value that is needed, but to list a program whose
addresses have more than 4300 digits. -/
theorem orderly_unless_baffled (arguments : List (List Char)) (disk : Disk)
    (hhelp : Request.ofArguments arguments ≠ .ok .help)
    (hdry : ∀ origin settings, Request.ofArguments arguments = .ok (.run origin settings) →
      settings.outDir = none ∧
        ∀ folder, settings.levelsDir = .value folder → disk.HoldsLevels folder) :
    ((run arguments disk).ending.Orderly ↔
      ¬∃ origin settings, Request.ofArguments arguments = .ok (.run origin settings) ∧
        ((∃ path, origin = .file (.value path) ∧ disk.Baffles path) ∨
          Lacks origin settings disk)) ∧
    (∀ path settings reason,
      Request.ofArguments arguments = .ok (.run (.file (.value path)) settings) →
        settings.logLevel ≠ .nothing → disk.readText path = .error (.disk reason) →
          path.hasZero = false →
            (run arguments disk).ending = .refused (.unreadable path reason)) ∧
    ((∀ argument ∈ arguments, Token.NoneAttached argument) →
      ∀ origin settings, Request.ofArguments arguments = .ok (.run origin settings) →
        Lacks origin settings disk →
          settings.listing = true ∧ ∃ program, Command.program origin disk = .ok program ∧
            10 ^ Text.maxNumeralDigits ≤ program.size) := by
  refine ⟨?_, ?_, ?_⟩
  · cases hrequest : Request.ofArguments arguments with
    | error fault =>
        have hend : (run arguments disk).ending = .refused (.usage fault) := by
          simp only [run, hrequest, stopped]
        refine iff_of_true (.inr ⟨_, hend⟩) ?_
        rintro ⟨origin, settings, hfalse, -⟩
        cases hfalse
    | ok request =>
        cases request with
        | help => exact absurd hrequest hhelp
        | run origin settings =>
            obtain ⟨hout, hlevels⟩ := hdry origin settings hrequest
            have hrun : run arguments disk = runWith origin settings disk := by
              simp only [run, hrequest]
            rw [hrun]
            constructor
            · rintro hend ⟨_, _, ⟨⟩, hreason⟩
              obtain ⟨breakdown, hbroken⟩ :
                  ∃ breakdown, (runWith origin settings disk).ending = .broken breakdown := by
                rcases hreason with ⟨path, rfl, hbaffles⟩ | hlacks
                · exact broken_of_baffles hbaffles
                · exact broken_of_lacks hlacks hlevels
              rw [hbroken] at hend
              exact Ending.not_orderly_broken breakdown hend
            · intro hready
              refine orderly_runWith (fun hlacks => ?_) hout hlevels ?_
              · exact hready ⟨origin, settings, rfl, .inr hlacks⟩
              · intro path horigin hbaffles
                exact hready ⟨origin, settings, rfl, .inl ⟨path, horigin, hbaffles⟩⟩
  · intro path settings reason hrequest hgiven hread hzero
    simp only [run, hrequest]
    exact refused_of_unreadable hgiven hzero hread
  · intro hattached origin settings hrequest hlacks
    obtain ⟨hgiven, hvalued⟩ := Request.valued_of_run hattached hrequest
    exact hlacks.exists_long hgiven hvalued

end Command

/-- A shelf with the creek and three programs: one that can be swum, one that may not be read, and
one whose only byte begins no character. -/
def Disk.creekside : Disk :=
  .shelf [("level1.txt", .file Level.creekBytes),
    ("swim.salmon", .file (.bytes ("move left;".toList.map fun char => char.val.toUInt8))),
    ("sealed.salmon", .file .locked), ("noise.salmon", .file (.bytes [0xFF]))]

theorem Disk.holdsLevels_creekside : Disk.creekside.HoldsLevels ⟨"", ["shelf"]⟩ := by
  have hnames : Disk.creekside.names ⟨"", ["shelf"]⟩ =
      .ok ["noise.salmon", "sealed.salmon", "swim.salmon", "level1.txt"] := by decide +kernel
  have hlevel : (Level.inFile? Disk.creekside ⟨"", ["shelf", "level1.txt"]⟩).isSome = true := by
    decide +kernel
  obtain ⟨level, hlevel⟩ := Option.isSome_iff_exists.1 hlevel
  have hname : ∀ name ∈ ["noise.salmon", "sealed.salmon", "swim.salmon", "level1.txt"],
      Level.isFileName name = true → name = "level1.txt" := by decide +kernel
  refine ⟨["shelf"], by decide +kernel, fun path hpath => ?_⟩
  rw [Level.levelFiles_eq hnames, Level.mem_filesAmong_iff] at hpath
  obtain ⟨name, hfile, hmem, rfl⟩ := hpath
  cases hname name hmem hfile
  exact ⟨level, Level.ofFile_of_inFile? hlevel⟩

namespace Command

/-- The arguments that ask for the creek and a program on the shelf. -/
def swimming (name : String) : List (List Char) :=
  ["--program", "shelf/" ++ name, "--levels-dir", "shelf", "--level", "7"].map String.toList

/-- The settings that the arguments ask for. -/
def shelfSettings : Settings :=
  { Settings.initial with levelsDir := .value ⟨"", ["shelf"]⟩, level := .value 7 }

theorem dry_shelfSettings {arguments : List (List Char)} {given : ProgramOrigin}
    (hrequest : Request.ofArguments arguments = .ok (.run given shelfSettings)) :
    ∀ origin settings, Request.ofArguments arguments = .ok (.run origin settings) →
      settings.outDir = none ∧
        ∀ folder, settings.levelsDir = .value folder → Disk.creekside.HoldsLevels folder := by
  intro origin settings hrun
  rw [hrequest] at hrun
  cases hrun
  refine ⟨rfl, fun folder hfolder => ?_⟩
  cases hfolder
  exact Disk.holdsLevels_creekside

/-- The creek is swum, and a sealed program is refused. -/
theorem orderly_unless_baffled_creekside :
    (run (swimming "swim.salmon") .creekside).ending.Orderly ∧
      (run (swimming "sealed.salmon") .creekside).ending =
        .refused (.unreadable ⟨"", ["shelf", "sealed.salmon"]⟩
          (.atPath .denied ⟨"", ["shelf", "sealed.salmon"]⟩)) := by
  have hswim : Request.ofArguments (swimming "swim.salmon") =
      .ok (.run (.file (.value ⟨"", ["shelf", "swim.salmon"]⟩)) shelfSettings) := by
    decide +kernel
  have hsealed : Request.ofArguments (swimming "sealed.salmon") =
      .ok (.run (.file (.value ⟨"", ["shelf", "sealed.salmon"]⟩)) shelfSettings) := by
    decide +kernel
  have hhelp {arguments : List (List Char)} {given : ProgramOrigin}
      (h : Request.ofArguments arguments = .ok (.run given shelfSettings)) :
      Request.ofArguments arguments ≠ .ok .help := by
    rw [h]
    nofun
  constructor
  · obtain ⟨hends, -, hlong⟩ :=
      orderly_unless_baffled _ _ (hhelp hswim) (dry_shelfSettings hswim)
    refine hends.2 ?_
    rintro ⟨origin, settings, hrun, hreason⟩
    rw [hswim] at hrun
    cases hrun
    rcases hreason with ⟨path, hpath, hbaffles⟩ | hlacks
    · cases hpath
      revert hbaffles
      unfold Disk.Baffles
      decide +kernel
    · cases (hlong (by decide +kernel) _ _ hswim hlacks).1
  · exact (orderly_unless_baffled _ _ (hhelp hsealed) (dry_shelfSettings hsealed)).2.1 _ _ _
      hsealed nofun (by decide +kernel) (by decide +kernel)

/-- One byte that begins no character is neither a program nor refused as one, though all else
that the command needs is there. -/
theorem noise_baffles_creekside :
    (∀ argument ∈ swimming "noise.salmon", Token.NoneAttached argument) ∧
      Request.ofArguments (swimming "noise.salmon") =
        .ok (.run (.file (.value ⟨"", ["shelf", "noise.salmon"]⟩)) shelfSettings) ∧
      shelfSettings.outDir = none ∧ shelfSettings.levelsDir = .value ⟨"", ["shelf"]⟩ ∧
      Disk.creekside.HoldsLevels ⟨"", ["shelf"]⟩ ∧
      ¬(run (swimming "noise.salmon") .creekside).ending.Orderly := by
  have hend : (run (swimming "noise.salmon") .creekside).ending =
      .broken (.read (.decode ⟨0, 1, 0xFF, .invalidStart⟩)) := by
    decide +kernel
  refine ⟨by decide +kernel, by decide +kernel, rfl, rfl, Disk.holdsLevels_creekside, ?_⟩
  rw [hend]
  exact Ending.not_orderly_broken _

end Command

end RiverPuzzle
