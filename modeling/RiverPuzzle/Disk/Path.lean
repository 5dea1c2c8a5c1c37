/-!
# Paths

A path as a text is a sequence of names between slashes.  Repeated slashes, the
name of the folder itself and a slash at the end add nothing; the name of the
folder above stays.  A path that starts with exactly two slashes keeps both.
-/

namespace RiverPuzzle

/-- A path: how it starts, and its names. -/
structure Path where
  root : String
  parts : List String
deriving DecidableEq, Repr

namespace Path

/-- How a path starts that starts with the given number of slashes. -/
def rootOf : Nat → String
  | 0 => ""
  | 2 => "//"
  | _ => "/"

/-- The path that a text names. -/
def ofText (text : String) : Path where
  root := rootOf (text.toList.takeWhile (· == '/')).length
  parts := ((text.toList.splitOn '/').map String.ofList).filter fun part =>
    part != "" && part != "."

/-- The text of a path; the empty path is written as the folder itself. -/
def text (path : Path) : String :=
  if path.root.isEmpty && path.parts.isEmpty then "."
  else path.root ++ "/".intercalate path.parts

/-- The path with one more name. -/
def child (path : Path) (name : String) : Path :=
  { path with parts := path.parts ++ [name] }

/-- The path without its last name. -/
def parent (path : Path) : Path :=
  { path with parts := path.parts.dropLast }

/-- A path that no disk can hold, for the sake of a zero character. -/
def hasZero (path : Path) : Bool :=
  path.parts.any fun part => part.toList.contains '\x00'

/-- The most bytes in one name. -/
def nameLimit : Nat := 255

/-- The most bytes in the text of a path. -/
def textLimit : Nat := 4095

/-- A name that no disk can hold, for the sake of its length. -/
def isLongName (name : String) : Bool :=
  nameLimit < name.utf8ByteSize

/-- A path that is not followed at all, for the sake of its length. -/
def isLong (path : Path) : Bool :=
  textLimit < path.text.utf8ByteSize

/-- The folder of the logs under an output folder. -/
def logs (out : Path) : Path :=
  out.child "logs"

/-- The file of the trace under an output folder. -/
def trace (out : Path) : Path :=
  out.logs.child "trace_log.parquet"

/-- The file of the summary under an output folder. -/
def summary (out : Path) : Path :=
  out.logs.child "run_summary.parquet"

end Path

end RiverPuzzle
