import RiverPuzzle.Text.Newline

/-!
# Log records

What the parts of the program report while they work: how much it matters, who
reports it, and the message.
-/

namespace RiverPuzzle

/-- How much a record matters. -/
inductive Severity
  | debug
  | info
  | warning
  | error
  | critical
deriving DecidableEq, Repr

namespace Severity

/-- Every severity, from the least. -/
def all : List Severity :=
  [.debug, .info, .warning, .error, .critical]

def name : Severity → String
  | .debug => "DEBUG"
  | .info => "INFO"
  | .warning => "WARNING"
  | .error => "ERROR"
  | .critical => "CRITICAL"

/-- The place of a severity in the order. -/
def rank : Severity → Nat
  | .debug => 0
  | .info => 1
  | .warning => 2
  | .error => 3
  | .critical => 4

end Severity

/-- A part of the program that reports. -/
inductive Reporter
  | session
  | levels
  | runner
deriving DecidableEq, Repr

def Reporter.name : Reporter → String
  | .session => "salmon_run.session"
  | .levels => "salmon_run.io.levels"
  | .runner => "salmon_run.simulation.engine"

/-- One record. -/
structure LogRecord where
  severity : Severity
  reporter : Reporter
  message : String
deriving DecidableEq, Repr

/-- The record as it is shown, with a line feed behind it. -/
def LogRecord.shown (entry : LogRecord) : String :=
  entry.severity.name ++ " " ++ entry.reporter.name ++ ": " ++ entry.message ++ "\n"

/-- The lines of the record; there are several when its message has line ends. -/
def LogRecord.lines (entry : LogRecord) : List String :=
  (Text.lines entry.shown.toList).map String.ofList

/-- The lines of the records that matter at least as much as `least`. -/
def logLines (least : Severity) (entries : List LogRecord) : List String :=
  (entries.filter fun entry => least.rank ≤ entry.severity.rank).flatMap LogRecord.lines

end RiverPuzzle
