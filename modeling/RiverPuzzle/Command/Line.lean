import RiverPuzzle.Code.Lowering
import RiverPuzzle.Command.Settings
import RiverPuzzle.Level.Folder
import RiverPuzzle.Run.Runner

/-!
# The command line

The command reads a program, looks up a level and runs the one on the other.
What it refuses it refuses before anything is written; only a run touches the
disk.
-/

namespace RiverPuzzle

/-- What the command refuses. -/
inductive Refusal
  | usage (fault : UsageFault)
  | unreadable (path : Path) (fault : DiskFault)
  | rejected (rejection : Rejection)
  | emptyProgram
  | cap (fault : CapTooLow)
  | noLevel (number : Int) (folder : Path)
deriving DecidableEq, Repr

def Refusal.message : Refusal → String
  | .usage fault => fault.message
  | .unreadable path fault => "cannot read program " ++ path.text ++ ": " ++ fault.message
  | .rejected rejection => rejection.message
  | .emptyProgram => "program is empty"
  | .cap fault => fault.message
  | .noLevel number folder => "level " ++ toString number ++ " not found in " ++ folder.text

/-- A value that is needed and was not given. -/
inductive NoValue
  | program
  | levelsDir
  | level
  | maxTicks
  | outDir
  | logLevel
deriving DecidableEq, Repr

def NoValue.message : NoValue → String
  | .program => "'list' object has no attribute 'read_text'"
  | .levelsDir | .outDir => "expected str, bytes or os.PathLike object, not list"
  | .level => "unhashable type: 'list'"
  | .maxTicks => "'<' not supported between instances of 'list' and 'int'"
  | .logLevel => "Level not an integer or a valid string: []"

/-- What the command is not prepared for. -/
inductive Breakdown
  | noValue (fault : NoValue)
  | read (fault : ReadFault)
  | listing (fault : WordingFault)
  | run (fault : RunFault)
deriving DecidableEq, Repr

def Breakdown.message : Breakdown → String
  | .noValue fault => fault.message
  | .read fault => fault.message
  | .listing fault => fault.message
  | .run fault => fault.message

/-- How the command ends before it is done. -/
inductive CommandFault
  | refused (refusal : Refusal)
  | broken (breakdown : Breakdown)
deriving DecidableEq, Repr

/-- How the command ends. -/
inductive Ending
  | done
  | helped
  | refused (refusal : Refusal)
  | broken (breakdown : Breakdown)
deriving DecidableEq, Repr

def CommandFault.ending : CommandFault → Ending
  | .refused refusal => .refused refusal
  | .broken breakdown => .broken breakdown

/-- How the command ended, what it printed and logged, and the disk after it. -/
structure CommandOutcome where
  ending : Ending
  output : String
  log : List String
  disk : Disk

namespace RunReport

/-- A truth value in the printed report. -/
def truthText : Bool → String
  | true => "true"
  | false => "false"

/-- The printed report: a name and a value on each line. -/
def printed (report : RunReport) (programLength : Nat) : String :=
  "\x7b\n"
    ++ "  \"level\": " ++ toString report.level ++ ",\n"
    ++ "  \"program_length\": " ++ toString programLength ++ ",\n"
    ++ "  \"completed\": " ++ truthText report.completed ++ ",\n"
    ++ "  \"ticks\": " ++ toString report.ticks ++ ",\n"
    ++ "  \"remaining_agents\": " ++ toString report.remaining ++ "\n"
    ++ "\x7d\n"

end RunReport

namespace Command

/-- What is printed for help.  The wording and the layout are this library's own, and nothing is
proved about them: what matters is that the command prints help and does nothing else. -/
def helpText : String :=
  "Run a salmon program on a level.\n\n"
    ++ "  --program PATH           file with the program\n"
    ++ "  --source TEXT            the program itself\n"
    ++ "  --levels-dir PATH        folder of the levels (levels)\n"
    ++ "  --level NUMBER           number of the level (1)\n"
    ++ "  --max-ticks NUMBER       cap on the ticks (500)\n"
    ++ "  --out-dir PATH           folder for the trace and the summary\n"
    ++ "  --trace, --no-trace      trace the salmon when there is a folder for it\n"
    ++ "  --listing                print the instructions and do not run\n"
    ++ "  --log-level SEVERITY     least severity that is logged (WARNING)\n"

/-- The value that a flag is given, which is needed now. -/
def needed {α : Type} (fault : NoValue) : Given α → Except CommandFault α
  | .value content => .ok content
  | .nothing => .error (.broken (.noValue fault))

/-- The text of the program in a file. -/
def fileText (path : Path) (disk : Disk) : Except CommandFault (List Char) :=
  match disk.readText path with
  | .ok text => .ok text
  | .error (.decode fault) => .error (.broken (.read (.decode fault)))
  | .error (.disk .zeroInPath) => .error (.broken (.read (.disk .zeroInPath)))
  | .error (.disk fault) => .error (.refused (.unreadable path fault))

/-- The text of the program. -/
def sourceText (origin : ProgramOrigin) (disk : Disk) : Except CommandFault (List Char) :=
  match origin with
  | .text source => .ok source
  | .file given =>
      match needed .program given with
      | .error fault => .error fault
      | .ok path => fileText path disk

/-- The program; it has at least one instruction. -/
def program (origin : ProgramOrigin) (disk : Disk) : Except CommandFault Program :=
  match sourceText origin disk with
  | .error fault => .error fault
  | .ok text =>
      match Program.ofText text with
      | .error rejection => .error (.refused (.rejected rejection))
      | .ok program =>
          if program.isEmpty then .error (.refused .emptyProgram) else .ok program

/-- The setup of the run. -/
def config (settings : Settings) : Except CommandFault RunConfig :=
  match needed .maxTicks settings.maxTicks with
  | .error fault => .error fault
  | .ok maxTicks =>
      match RunConfig.ofCap maxTicks settings.traced with
      | .error fault => .error (.refused (.cap fault))
      | .ok config => .ok config

/-- The last level of a list with the given number. -/
def pick? (number : Int) (levels : List Level) : Option Level :=
  levels.reverse.find? fun level => level.number = number

/-- The level with the given number in a folder. -/
def choose (given : Given Int) (folder : Path) (levels : List Level) :
    Except CommandFault Level :=
  match needed .level given with
  | .error fault => .error fault
  | .ok number =>
      match pick? number levels with
      | none => .error (.refused (.noLevel number folder))
      | some level => .ok level

/-- The level that the settings name, and what was logged. -/
def level (settings : Settings) (disk : Disk) :
    Except CommandFault Level × List LogRecord :=
  match needed .levelsDir settings.levelsDir with
  | .error fault => (.error fault, [])
  | .ok folder =>
      match Level.ofFolder disk folder with
      | ⟨.error fault, log⟩ => (.error (.broken (.read fault)), log)
      | ⟨.ok levels, log⟩ => (choose settings.level folder levels, log)

/-- The output folder, if there is to be one. -/
def outFolder (settings : Settings) : Except CommandFault (Option Path) :=
  match settings.outDir with
  | none => .ok none
  | some given => (needed .outDir given).map some

/-- The command with an ending other than a run's. -/
def stopped (ending : Ending) (output : String) (log : List String) (disk : Disk) :
    CommandOutcome :=
  ⟨ending, output, log, disk⟩

/-- Run a program on a level as the settings say. -/
def runOn (settings : Settings) (least : Severity) (program : Program) (config : RunConfig)
    (level : Level) (log : List LogRecord) (disk : Disk) : CommandOutcome :=
  match outFolder settings with
  | .error fault => stopped fault.ending "" (logLines least log) disk
  | .ok out =>
      let outcome := runLevel standardThreshold level program config out disk
      let log := logLines least (log ++ outcome.log)
      match outcome.result with
      | .error fault => ⟨.broken (.run fault), "", log, outcome.disk⟩
      | .ok report => ⟨.done, report.printed program.size, log, outcome.disk⟩

/-- Do with a program what the settings say, logging what matters at least as much
as `least`. -/
def runLogged (origin : ProgramOrigin) (settings : Settings) (least : Severity) (disk : Disk) :
    CommandOutcome :=
  match program origin disk with
  | .error fault => stopped fault.ending "" [] disk
  | .ok program =>
      if settings.listing then
        match program.listing with
        | .error fault => stopped (.broken (.listing fault)) "" [] disk
        | .ok lines => stopped .done ("\n".intercalate lines ++ "\n") [] disk
      else
        match config settings with
        | .error fault => stopped fault.ending "" [] disk
        | .ok config =>
            match level settings disk with
            | (.error fault, log) => stopped fault.ending "" (logLines least log) disk
            | (.ok level, log) => runOn settings least program config level log disk

/-- Do with a program what the settings say. -/
def runWith (origin : ProgramOrigin) (settings : Settings) (disk : Disk) : CommandOutcome :=
  match needed .logLevel settings.logLevel with
  | .error fault => stopped fault.ending "" [] disk
  | .ok least => runLogged origin settings least disk

/-- Do what the arguments say. -/
def run (arguments : List (List Char)) (disk : Disk) : CommandOutcome :=
  match Request.ofArguments arguments with
  | .error fault => stopped (.refused (.usage fault)) "" [] disk
  | .ok .help => stopped .helped helpText [] disk
  | .ok (.run origin settings) => runWith origin settings disk

end Command

end RiverPuzzle
