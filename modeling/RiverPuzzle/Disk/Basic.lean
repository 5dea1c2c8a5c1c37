import RiverPuzzle.Disk.Path
import RiverPuzzle.Run.Table
import RiverPuzzle.Text.Newline
import RiverPuzzle.Text.Quoted
import RiverPuzzle.Text.Utf8

/-!
# Disks

A disk holds folders and files, each at the location that the names from the top
folder on give.  A path without a root starts in the working folder.  A path is
followed name by name, so every name before the last has to be a folder, even
if the way goes up again afterwards.  A name can be too long, which is noticed
when the name is reached; a path as a whole can be too long, which is noticed
before anything else.
-/

namespace RiverPuzzle

/-- The names from the top folder on. -/
abbrev Location := List String

/-- What a file holds: bytes, something that may not be read, or a table of a run.  A table is
kept as its rows; the bytes in which it is stored are left open. -/
inductive Content
  | bytes (data : List UInt8)
  | locked
  | trace (groups : List (List TraceRow))
  | summary (rows : List SummaryRow)
deriving DecidableEq, Repr

/-- What lies at a location: a folder, which can always be entered, listed and added to, or a
file.  Only a file may be closed to those who read it, and nothing stands for another entry by
a link. -/
inductive Entry
  | folder
  | file (content : Content)
deriving DecidableEq, Repr

/-- Why a path leads nowhere useful. -/
inductive PathError
  | missing
  | denied
  | taken
  | notFolder
  | isFolder
  | tooLong
deriving DecidableEq, Repr

namespace PathError

def number : PathError → Nat
  | .missing => 2
  | .denied => 13
  | .taken => 17
  | .notFolder => 20
  | .isFolder => 21
  | .tooLong => 36

def text : PathError → String
  | .missing => "No such file or directory"
  | .denied => "Permission denied"
  | .taken => "File exists"
  | .notFolder => "Not a directory"
  | .isFolder => "Is a directory"
  | .tooLong => "File name too long"

end PathError

/-- Why something on a disk cannot be done: an error at a path, or a path that no
disk can hold. -/
inductive DiskFault
  | atPath (error : PathError) (path : Path)
  | zeroInPath
deriving DecidableEq, Repr

def DiskFault.message : DiskFault → String
  | .atPath error path =>
      "[Errno " ++ toString error.number ++ "] " ++ error.text ++ ": "
        ++ Text.quoted path.text.toList
  | .zeroInPath => "embedded null byte"

/-- Why a text file cannot be read. -/
inductive ReadFault
  | disk (fault : DiskFault)
  | decode (fault : Text.DecodeFault)
deriving DecidableEq, Repr

def ReadFault.message : ReadFault → String
  | .disk fault => fault.message
  | .decode fault => fault.message

/-- Folders and files, no two at one location; the folder in which one works; and
the folders in which people are at home, by their names.  The name of the one who
works here is empty.  There is always room for one more file, and every file can be
replaced; no entry is a link and no folder is closed to anyone, so what a path leads to
is decided by its names alone. -/
structure Disk where
  entries : List (Location × Entry)
  workplace : Location
  homes : List (String × Path)
  nodup : (entries.map Prod.fst).Nodup
deriving DecidableEq

namespace Disk

/-- The folders on the way to a location, the location included. -/
def waysTo (location : Location) : List Location :=
  (List.range location.length).map fun length => location.take (length + 1)

theorem nodup_waysTo (location : Location) : (waysTo location).Nodup := by
  refine List.pairwise_map.2 (List.nodup_range.imp_of_mem ?_)
  intro first second hfirst hsecond hne heq
  have hlength := congrArg List.length heq
  simp only [List.length_take, List.mem_range] at hlength hfirst hsecond
  omega

/-- A disk with nothing on it but the working folder. -/
def blank (workplace : Location) (homes : List (String × Path)) : Disk where
  entries := (waysTo workplace).map fun location => (location, .folder)
  workplace := workplace
  homes := homes
  nodup := by
    simpa only [List.map_map, Function.comp_def, List.map_id'] using nodup_waysTo workplace

/-- What lies at a location. -/
def entry? (disk : Disk) (location : Location) : Option Entry :=
  if location.isEmpty then some .folder else disk.entries.lookup location

/-- The disk without what lies at a location. -/
def erase (disk : Disk) (location : Location) : Disk where
  entries := disk.entries.filter fun other => other.1 != location
  workplace := disk.workplace
  homes := disk.homes
  nodup := List.Nodup.sublist (List.filter_sublist.map Prod.fst) disk.nodup

theorem notMem_erase (disk : Disk) (location : Location) :
    location ∉ (disk.erase location).entries.map Prod.fst := by
  intro hmem
  obtain ⟨other, hother, heq⟩ := List.mem_map.1 hmem
  have hkept := (List.mem_filter.1 hother).2
  simp only [bne_iff_ne, ne_eq] at hkept
  exact hkept heq

/-- The disk with something put at a location, in place of what was there. -/
def put (disk : Disk) (location : Location) (entry : Entry) : Disk where
  entries := (location, entry) :: (disk.erase location).entries
  workplace := disk.workplace
  homes := disk.homes
  nodup := by
    rw [List.map_cons, List.nodup_cons]
    exact ⟨disk.notMem_erase location, (disk.erase location).nodup⟩

/-- Follow names from a folder to wherever they lead. -/
def follow (disk : Disk) (folder : Location) : List String → Except PathError Location
  | [] => .ok folder
  | ".." :: rest => disk.follow folder.dropLast rest
  | name :: rest =>
      if Path.isLongName name then .error .tooLong
      else
        let location := folder ++ [name]
        match disk.entry? location with
        | none => .error .missing
        | some .folder => disk.follow location rest
        | some (.file _) => if rest.isEmpty then .ok location else .error .notFolder

/-- The folder in which a path starts. -/
def origin (disk : Disk) (path : Path) : Location :=
  if path.root.isEmpty then disk.workplace else []

/-- Where a path leads. -/
def locate (disk : Disk) (path : Path) : Except PathError Location :=
  if path.isLong then .error .tooLong else disk.follow (disk.origin path) path.parts

/-- The folder to which a path leads, if it leads to one.  A name that is too long
is the only error. -/
def folder? (disk : Disk) (path : Path) : Except PathError (Option Location) :=
  if path.hasZero then .ok none
  else
    match disk.locate path with
    | .ok location =>
        .ok (if disk.entry? location = some .folder then some location else none)
    | .error .tooLong => .error .tooLong
    | .error _ => .ok none

/-- The path leads to a folder. -/
def isFolder (disk : Disk) (path : Path) : Bool :=
  match disk.folder? path with
  | .ok (some _) => true
  | _ => false

/-- The folder in which the last name of a path stands. -/
def locateParent (disk : Disk) (path : Path) : Except PathError Location :=
  if path.isLong then .error .tooLong
  else
    match disk.locate path.parent with
    | .error error => .error error
    | .ok location =>
        if disk.entry? location = some .folder then .ok location else .error .notFolder

/-- The location of a new entry at a path, when nothing lies there yet. -/
def locateNew (disk : Disk) (path : Path) : Except PathError Location :=
  match disk.locateParent path with
  | .error error => .error error
  | .ok folder =>
      match path.parts.getLast? with
      | none | some ".." => .error .taken
      | some name =>
          if Path.isLongName name then .error .tooLong
          else
            match disk.entry? (folder ++ [name]) with
            | none => .ok (folder ++ [name])
            | some _ => .error .taken

/-- Make one folder, inside folders that are there already. -/
def makeFolder (disk : Disk) (path : Path) : Except PathError Disk :=
  (disk.locateNew path).map fun location => disk.put location .folder

/-- Nothing is wrong if the folder is there after all. -/
def settleFolder (disk : Disk) (path : Path) (error : PathError) :
    Disk × Except DiskFault Unit :=
  (disk, if disk.isFolder path then .ok () else .error (.atPath error path))

/-- Make a folder and those above it, as far as they are missing. -/
def makeFolders (disk : Disk) (path : Path) : Disk × Except DiskFault Unit :=
  if path.hasZero then (disk, .error .zeroInPath)
  else
    match disk.makeFolder path with
    | .ok made => (made, .ok ())
    | .error .missing =>
        if _hparts : path.parts = [] then (disk, .error (.atPath .missing path))
        else
          match disk.makeFolders path.parent with
          | (above, .error fault) => (above, .error fault)
          | (above, .ok ()) =>
              match above.makeFolder path with
              | .ok made => (made, .ok ())
              | .error .missing => (above, .error (.atPath .missing path))
              | .error error => above.settleFolder path error
    | .error error => disk.settleFolder path error
termination_by path.parts.length
decreasing_by
  have := List.length_pos_iff.2 _hparts
  simp only [Path.parent, List.length_dropLast]
  omega

/-- The location of a file that is to be written at a path. -/
def locateFile (disk : Disk) (path : Path) : Except PathError Location :=
  match disk.locateParent path with
  | .error error => .error error
  | .ok folder =>
      match path.parts.getLast? with
      | none | some ".." => .error .isFolder
      | some name =>
          if Path.isLongName name then .error .tooLong
          else if disk.entry? (folder ++ [name]) = some .folder then .error .isFolder
          else .ok (folder ++ [name])

/-- Write a file at a path, in place of the one that was there. -/
def write (disk : Disk) (path : Path) (content : Content) : Except DiskFault Disk :=
  match disk.locateFile path with
  | .error error => .error (.atPath error path)
  | .ok location => .ok (disk.put location (.file content))

/-- The disk without the file at a path, if there is one. -/
def removeFile (disk : Disk) (path : Path) : Disk :=
  match disk.locate path with
  | .error _ => disk
  | .ok location =>
      match disk.entry? location with
      | some (.file _) => disk.erase location
      | _ => disk

/-- What the file at a path holds. -/
def read (disk : Disk) (path : Path) : Except DiskFault Content :=
  if path.hasZero then .error .zeroInPath
  else
    match disk.locate path with
    | .error error => .error (.atPath error path)
    | .ok location =>
        match disk.entry? location with
        | none => .error (.atPath .missing path)
        | some .folder => .error (.atPath .isFolder path)
        | some (.file .locked) => .error (.atPath .denied path)
        | some (.file content) => .ok content

/-- The bytes of a file that is read as text.  A table gives an empty text, since its bytes
are left open.  The empty text stands in for bytes that as a rule are no text at all, so what
follows for a program or a level that is read from the file of a table holds of the stand-in
only. -/
def Content.text : Content → List UInt8
  | .bytes data => data
  | _ => []

/-- The text of the file at a path, its line ends made one. -/
def readText (disk : Disk) (path : Path) : Except ReadFault (List Char) :=
  match disk.read path with
  | .error fault => .error (.disk fault)
  | .ok content =>
      match Text.decodeUtf8 (Content.text content) with
      | .error fault => .error (.decode fault)
      | .ok text => .ok (Text.unifyNewlines text)

/-- The names in the folder at a path; there are none where no folder is. -/
def names (disk : Disk) (path : Path) : Except DiskFault (List String) :=
  match disk.folder? path with
  | .error error => .error (.atPath error path)
  | .ok none => .ok []
  | .ok (some folder) =>
      .ok (disk.entries.filterMap fun (location, _) =>
        if location.dropLast = folder then location.getLast? else none)

/-- The locations of the files under the working folder, seen from there. -/
def files (disk : Disk) : List Location :=
  disk.entries.filterMap fun (location, entry) =>
    match entry with
    | .folder => none
    | .file _ => disk.workplace.isPrefixOf? location

end Disk

end RiverPuzzle
