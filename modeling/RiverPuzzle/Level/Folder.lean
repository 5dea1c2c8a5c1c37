import RiverPuzzle.Disk.Basic
import RiverPuzzle.Level.Reader
import RiverPuzzle.Log
import RiverPuzzle.Text.Word

/-!
# Folders of levels

Every file of a folder whose name starts with `level` and ends with `.txt` is
read as a drawn level.  A file that cannot be read, or that draws no level, is
skipped with a warning; a file that is no text at all stops the reading.  There are
no files where no folder is, but a folder with an overlong name is an error.
-/

namespace RiverPuzzle

/-- Why a file holds no level. -/
inductive LevelFileFault
  | read (fault : ReadFault)
  | format (fault : LevelFault)
deriving DecidableEq, Repr

/-- The levels of a folder in the order of their numbers, or the fault that stopped
the reading; and what was logged. -/
structure LevelFolder where
  levels : Except ReadFault (List Level)
  log : List LogRecord

namespace Level

/-- The level in the file at a path. -/
def ofFile (disk : Disk) (path : Path) : Except LevelFileFault Level :=
  match disk.readText path with
  | .error fault => .error (.read fault)
  | .ok text =>
      match ofText text with
      | .error fault => .error (.format fault)
      | .ok level => .ok level

/-- How the name of a file that should hold a level starts. -/
def fileStart : List Char := ['l', 'e', 'v', 'e', 'l']

/-- How the name of a file that should hold a level ends. -/
def fileEnd : List Char := ['.', 't', 'x', 't']

/-- The name of a file that should hold a level. -/
def isFileName (name : String) : Bool :=
  match Text.afterWord? fileStart name.toList with
  | some rest => fileEnd.isSuffixOf rest
  | none => false

/-- The paths of the files among the names in a folder that should hold a level, by
name. -/
def filesAmong (folder : Path) (names : List String) : List Path :=
  ((names.filter isFileName).mergeSort fun left right => !(right < left)).map folder.child

/-- The record of a file that is skipped. -/
def skipRecord (path : Path) (reason : String) : LogRecord :=
  ⟨.warning, .levels, "Skipping level file " ++ path.text ++ ": " ++ reason⟩

/-- Read the files in order.  The levels and the log so far come newest first. -/
def readFiles (disk : Disk) (levels : List Level) (log : List LogRecord) :
    List Path → LevelFolder
  | [] => ⟨.ok levels.reverse, log.reverse⟩
  | path :: rest =>
      match ofFile disk path with
      | .ok level => readFiles disk (level :: levels) log rest
      | .error (.format fault) =>
          readFiles disk levels (skipRecord path fault.message :: log) rest
      | .error (.read (.disk fault)) =>
          readFiles disk levels (skipRecord path fault.message :: log) rest
      | .error (.read (.decode fault)) => ⟨.error (.decode fault), log.reverse⟩

/-- What is logged when all files of a folder are read. -/
def loadedRecord (folder : Path) (count : Nat) : LogRecord :=
  ⟨.debug, .levels, "Loaded " ++ toString count ++ " levels from " ++ folder.text⟩

/-- The levels of a folder. -/
def ofFolder (disk : Disk) (folder : Path) : LevelFolder :=
  match disk.names folder with
  | .error fault => ⟨.error (.disk fault), []⟩
  | .ok names =>
      match readFiles disk [] [] (filesAmong folder names) with
      | ⟨.error fault, log⟩ => ⟨.error fault, log⟩
      | ⟨.ok levels, log⟩ =>
          let sorted := levels.mergeSort fun left right => left.number ≤ right.number
          ⟨.ok sorted, log ++ [loadedRecord folder sorted.length]⟩

end Level

end RiverPuzzle
