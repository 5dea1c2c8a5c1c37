import RiverPuzzle.Disk.Table
import RiverPuzzle.Run.Columns

/-!
# Recorders

A recorder collects the rows of a trace and writes them in groups.  A flush
turns the rows that wait into one group, or fails and changes nothing; the file
is opened by the first flush that has something to write.
-/

namespace RiverPuzzle

/-- The rows that wait, and the groups written so far, once the file is open. -/
structure Recorder where
  pending : Columns
  groups : Option (Array (Array TraceRow))
deriving DecidableEq, Repr

/-- Why rows cannot be written. -/
inductive FlushFault
  | overflow (fault : Overflow)
  | table (fault : TableFault)
deriving DecidableEq, Repr

namespace Recorder

/-- A recorder to which nothing has happened. -/
def new : Recorder :=
  ⟨.empty, none⟩

/-- The file is open. -/
def isOpen (recorder : Recorder) : Bool :=
  recorder.groups.isSome

/-- More rows wait. -/
def add (recorder : Recorder) (rows : List TraceRow) : Recorder :=
  { recorder with pending := rows.foldl Columns.push recorder.pending }

/-- Write the rows that wait as one group.  `door` says whether the file can be
opened. -/
def flush (recorder : Recorder) (door : Except TableFault Unit) : Recorder × Option FlushFault :=
  if recorder.pending.isEmpty then (recorder, none)
  else if ∀ row ∈ recorder.pending.toList, row.Fits then
    let group := recorder.pending.toList.toArray
    match recorder.groups, door with
    | some groups, _ => (⟨.empty, some (groups.push group)⟩, none)
    | none, .ok () => (⟨.empty, some #[group]⟩, none)
    | none, .error fault => (recorder, some (.table fault))
  else (recorder, some (.overflow {}))

/-- What the file of the trace holds, if there is one. -/
def content? (recorder : Recorder) : Option Content :=
  recorder.groups.map fun groups => .trace (groups.toList.map Array.toList)

end Recorder

end RiverPuzzle
