import RiverPuzzle.Log
import RiverPuzzle.Run.Config
import RiverPuzzle.Run.Recorder

/-!
# Running a level

A run lets a program swim on a level until no salmon is left or the cap on the
ticks is reached.  With an output folder it writes a summary there, and if the
run is traced the salmon after every tick.  Rows are written as soon as enough of
them wait, so the trace comes in groups of whole ticks.
-/

namespace RiverPuzzle

/-- How a run ended. -/
structure RunReport where
  level : Int
  completed : Bool
  ticks : Nat
  remaining : Nat
deriving DecidableEq, Repr

/-- Why a run failed. -/
inductive RunFault
  | load (fault : LoadFault)
  | tick (fault : TickFault)
  | overflow (fault : Overflow)
  | folder (fault : DiskFault)
  | table (fault : TableFault)
deriving DecidableEq, Repr

def RunFault.message : RunFault → String
  | .load fault => fault.message
  | .tick fault => fault.message
  | .overflow fault => fault.message
  | .folder fault => fault.message
  | .table fault => fault.message

def FlushFault.asRunFault : FlushFault → RunFault
  | .overflow fault => .overflow fault
  | .table fault => .table fault

/-- How a run is traced: the number of its level, how many waiting rows are
written at once, and whether the file can be opened. -/
structure Tracing where
  level : Int
  threshold : Int
  door : Except TableFault Unit

/-- How far a run has come. -/
structure Progress where
  river : River
  ticks : Nat
  recorder : Recorder

/-- The disk and the log after a run, and how it ended. -/
structure RunOutcome where
  result : Except RunFault RunReport
  disk : Disk
  log : List LogRecord

namespace Progress

/-- The beginning of a run. -/
def start (river : River) : Progress :=
  ⟨river, 0, .new⟩

/-- The rows of the salmon as they are now. -/
def rows (progress : Progress) (level : Int) : List TraceRow :=
  progress.river.salmon.map (TraceRow.ofSalmon level progress.ticks)

/-- Put down where the salmon are, if the run is traced. -/
def note (progress : Progress) : Option Tracing → Progress
  | none => progress
  | some tracing =>
      { progress with recorder := progress.recorder.add (progress.rows tracing.level) }

/-- Write the rows that wait, if the run is traced. -/
def flush (progress : Progress) : Option Tracing → Progress × Option RunFault
  | none => (progress, none)
  | some tracing =>
      let (recorder, fault?) := progress.recorder.flush tracing.door
      ({ progress with recorder := recorder }, fault?.map FlushFault.asRunFault)

/-- Write the rows that wait, if the run is traced and they are enough. -/
def flushIfFull (progress : Progress) : Option Tracing → Progress × Option RunFault
  | none => (progress, none)
  | some tracing =>
      if tracing.threshold ≤ progress.recorder.pending.size then progress.flush (some tracing)
      else (progress, none)

/-- Swim for at most the given number of ticks, and no longer than a salmon is
left. -/
def swim (tracing : Option Tracing) : Nat → Progress → Progress × Option RunFault
  | 0, progress => (progress, none)
  | count + 1, progress =>
      if progress.river.isComplete then (progress, none)
      else
        match progress.river.tick with
        | .error interruption =>
            ({ progress with river := interruption.river }, some (.tick interruption.fault))
        | .ok river =>
            let moved : Progress := ⟨river, progress.ticks + 1, progress.recorder⟩
            match (moved.note tracing).flushIfFull tracing with
            | (next, none) => swim tracing count next
            | (next, some fault) => (next, some fault)

/-- A whole run, up to the last row of its trace. -/
def run (tracing : Option Tracing) (maxTicks : Nat) (river : River) :
    Progress × Option RunFault :=
  match swim tracing maxTicks ((start river).note tracing) with
  | (progress, none) => progress.flush tracing
  | (progress, some fault) => (progress, some fault)

/-- The report on a run that has come to its end. -/
def report (progress : Progress) (level : Int) : RunReport :=
  ⟨level, progress.river.isComplete, progress.ticks, progress.river.salmon.length⟩

end Progress

namespace RunReport

/-- What the log says about a run. -/
def logRecord (report : RunReport) : LogRecord where
  severity := .info
  reporter := .runner
  message :=
    if report.completed then
      "Level " ++ toString report.level ++ " complete after " ++ toString report.ticks ++ " ticks"
    else
      "Level " ++ toString report.level ++ " stopped at tick cap " ++ toString report.ticks
        ++ " with " ++ toString report.remaining ++ " salmon left"

/-- The row of the summary. -/
def summaryRow (report : RunReport) (programLength : Nat) : SummaryRow where
  version := tableVersion
  level := report.level
  programLength := programLength
  completed := report.completed
  ticks := report.ticks
  remaining := report.remaining

end RunReport

namespace Disk

/-- The disk with the trace of a recorder, if it wrote any. -/
def writeTrace (disk : Disk) (out : Path) (recorder : Recorder) : Disk :=
  match recorder.content? with
  | none => disk
  | some content =>
      match disk.writeTable out.trace content with
      | .ok written => written
      | .error _ => disk

/-- The disk after the summary of a run is written, and what went wrong.  When the
file cannot be opened, the one that lies at its path is removed. -/
def writeSummary (disk : Disk) (out : Path) (row : SummaryRow) : Disk × Option RunFault :=
  match row.table with
  | .error fault => (disk, some (.overflow fault))
  | .ok rows =>
      match disk.writeTable out.summary (.summary rows) with
      | .ok written => (written, none)
      | .error fault => (disk.removeFile (disk.writtenOut out.summary), some (.table fault))

end Disk

/-- The number of waiting rows that are written at once. -/
def standardThreshold : Nat := 8192

/-- Run in a loaded river, without leaving anything on a disk. -/
def runDry (level : Level) (config : RunConfig) (river : River) (disk : Disk) : RunOutcome :=
  match Progress.run none config.maxTicks river with
  | (_, some fault) => ⟨.error fault, disk, []⟩
  | (progress, none) =>
      let report := progress.report level.number
      ⟨.ok report, disk, [report.logRecord]⟩

/-- Run in a loaded river, with an output folder whose logs folder is there. -/
def runInto (threshold : Int) (level : Level) (config : RunConfig) (river : River) (out : Path)
    (disk : Disk) : RunOutcome :=
  let tracing : Option Tracing :=
    if config.traced then
      some ⟨level.number, threshold, (disk.locateTable out.trace).map fun _ => ()⟩
    else none
  let (progress, fault?) := Progress.run tracing config.maxTicks river
  let disk := disk.writeTrace out progress.recorder
  match fault? with
  | some fault => ⟨.error fault, disk, []⟩
  | none =>
      let report := progress.report level.number
      match disk.writeSummary out (report.summaryRow river.program.size) with
      | (disk, some fault) => ⟨.error fault, disk, [report.logRecord]⟩
      | (disk, none) => ⟨.ok report, disk, [report.logRecord]⟩

/-- Run a program on a level. -/
def runLevel (threshold : Int) (level : Level) (program : Program) (config : RunConfig)
    (out : Option Path) (disk : Disk) : RunOutcome :=
  match River.load level program with
  | .error fault => ⟨.error (.load fault), disk, []⟩
  | .ok river =>
      match out with
      | none => runDry level config river disk
      | some out =>
          match disk.makeFolders out.logs with
          | (disk, .error fault) => ⟨.error (.folder fault), disk, []⟩
          | (disk, .ok ()) => runInto threshold level config river out disk

end RiverPuzzle
