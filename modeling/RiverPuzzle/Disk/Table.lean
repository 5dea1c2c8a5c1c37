import RiverPuzzle.Disk.Address
import RiverPuzzle.Disk.Basic

/-!
# Tables on a disk

A table is written at a path.  A path that starts in someone's home is written out
first.  Where nothing lies at the path, its text may still read as an address, and
then the table goes to the place that the address names; a text that is meant for
an address is never taken for a path.
-/

namespace RiverPuzzle

/-- Why a table cannot be written. -/
inductive TableFault
  | lookup (error : PathError) (text : String)
  | opening (error : PathError) (text : String)
  | address (fault : AddressFault)
deriving DecidableEq, Repr

namespace TableFault

/-- A failure with the error behind it. -/
def detailed (failure : String) (error : PathError) (text : String) : String :=
  "[Errno " ++ toString error.number ++ "] " ++ failure ++ " '" ++ text ++ "'. Detail: [errno "
    ++ toString error.number ++ "] " ++ error.text

def message : TableFault → String
  | .lookup error text => detailed "Failed stat()ing path" error text
  | .opening error text => detailed "Failed to open local file" error text
  | .address fault => fault.message

end TableFault

namespace Disk

/-- The path with the home in which it starts written out. -/
def writtenOut (disk : Disk) (path : Path) : Path :=
  match path.root.isEmpty, path.parts with
  | true, first :: rest =>
      match first.toList with
      | '~' :: owner =>
          match disk.homes.lookup (String.ofList owner) with
          | some home => { home with parts := home.parts ++ rest }
          | none => path
      | _ => path
  | _, _ => path

/-- The place that a text names, as an address if it reads as one. -/
def placeOfText (text : String) : Except TableFault Place :=
  match Address.ofText? text.toList with
  | none => .ok (.onDisk text)
  | some address =>
      match address.target with
      | .error fault => .error (.address fault)
      | .ok place => .ok place

/-- The place to which a table at a path goes. -/
def placeOfTable (disk : Disk) (path : Path) : Except TableFault Place :=
  let path := disk.writtenOut path
  if Address.isMeant path.text.toList then placeOfText path.text
  else
    match disk.locate path with
    | .ok _ => .ok (.onDisk path.text)
    | .error .tooLong => .error (.lookup .tooLong path.text)
    | .error _ => placeOfText path.text

/-- The location on this disk of a table with the given place. -/
def openOnDisk (disk : Disk) (text : String) : Except TableFault Location :=
  if Address.isMeant text.toList then .error (.address (.notOnDisk text))
  else if text.toList.contains '\x00' then .error (.address (.zeroInPlace text))
  else if text.isEmpty then .error (.opening .missing text)
  else
    match disk.locateFile (Path.ofText text) with
    | .error error => .error (.opening error text)
    | .ok location => .ok location

/-- A store made for the occasion has room at its top only, since it has no folder. -/
def openInMemory (text : String) : Except TableFault Unit :=
  let name := if text.toList.getLast? = some '/' then text.toList.dropLast else text.toList
  if Address.isMeant text.toList then .error (.address (.notInMemory text))
  else if name.isEmpty || name.contains '/' then .error (.address (.missing text))
  else .ok ()

/-- The location of a table that is to be written at a path, if it is to be on this
disk at all. -/
def locateTable (disk : Disk) (path : Path) : Except TableFault (Option Location) :=
  match disk.placeOfTable path with
  | .error fault => .error fault
  | .ok (.onDisk text) => (disk.openOnDisk text).map some
  | .ok (.inMemory text) => (openInMemory text).map fun _ => none

/-- Write a table at a path. -/
def writeTable (disk : Disk) (path : Path) (content : Content) : Except TableFault Disk :=
  match disk.locateTable path with
  | .error fault => .error fault
  | .ok none => .ok disk
  | .ok (some location) => .ok (disk.put location (.file content))

end Disk

end RiverPuzzle
