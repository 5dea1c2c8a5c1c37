import RiverPuzzle.River.Tick

/-!
# The tables of a run

A run leaves a trace, with one row for each salmon after each tick, and a
summary of one row.  Whole numbers in a table have to fit in a signed word.
-/

namespace RiverPuzzle

/-- What a column of a table holds. -/
inductive ColumnKind
  | word
  | truth
deriving DecidableEq, Repr

def ColumnKind.name : ColumnKind → String
  | .word => "int64"
  | .truth => "bool"

/-- The number of the layout of both tables. -/
def tableVersion : Nat := 1

/-- The state of one salmon after one tick. -/
structure TraceRow where
  level : Int
  tick : Int
  id : Int
  x : Int
  y : Int
  pc : Int
deriving DecidableEq, Repr

namespace TraceRow

/-- The names and kinds of the columns. -/
def columns : List (String × ColumnKind) :=
  [("level", .word), ("tick", .word), ("agent_id", .word), ("x", .word), ("y", .word),
    ("pc", .word)]

/-- The row of a salmon. -/
def ofSalmon (level : Int) (tick : Nat) (salmon : Salmon) : TraceRow :=
  ⟨level, tick, salmon.id, salmon.cell.x, salmon.cell.y, salmon.pc⟩

/-- The numbers of a row in the order of the columns. -/
def values (row : TraceRow) : List Int :=
  [row.level, row.tick, row.id, row.x, row.y, row.pc]

/-- The numbers of the row fit in their columns. -/
def Fits (row : TraceRow) : Prop :=
  ∀ value ∈ row.values, FitsWord value

instance (row : TraceRow) : Decidable row.Fits :=
  inferInstanceAs (Decidable (∀ value ∈ row.values, FitsWord value))

end TraceRow

/-- The summary of a run. -/
structure SummaryRow where
  version : Int
  level : Int
  programLength : Int
  completed : Bool
  ticks : Int
  remaining : Int
deriving DecidableEq, Repr

namespace SummaryRow

/-- The names and kinds of the columns. -/
def columns : List (String × ColumnKind) :=
  [("schema_version", .word), ("level", .word), ("program_length", .word),
    ("completed", .truth), ("ticks", .word), ("remaining_agents", .word)]

/-- The numbers of the row fit in their columns. -/
def Fits (row : SummaryRow) : Prop :=
  ∀ value ∈ [row.version, row.level, row.programLength, row.ticks, row.remaining], FitsWord value

instance (row : SummaryRow) : Decidable row.Fits :=
  inferInstanceAs (Decidable (∀ value ∈ [row.version, row.level, row.programLength, row.ticks,
    row.remaining], FitsWord value))

end SummaryRow

/-- A number that does not fit in its column. -/
structure Overflow where
deriving DecidableEq, Repr

def Overflow.message (_ : Overflow) : String :=
  "Python int too large to convert to C long"

/-- The summary as a table of one row. -/
def SummaryRow.table (row : SummaryRow) : Except Overflow (List SummaryRow) :=
  if row.Fits then .ok [row] else .error {}

end RiverPuzzle
