import RiverPuzzle.Command.Line

/-!
# The program

The outer layer of the command: it takes a picture of the part of the disk that
the arguments name, lets the command work on the picture, and carries out what
changed in it.  Tables are written as text, one row on each line.
-/

namespace RiverPuzzle.Main

/-- The text of a location. -/
def placeText (location : Location) : String :=
  "/" ++ "/".intercalate location

/-- The names of a location given as text. -/
def placeNames (text : String) : Location :=
  (Path.ofText text).parts

/-- The picture with what lies at a location. -/
def addPlace (disk : Disk) (location : Location) : IO Disk := do
  let place := (← IO.currentDir) / placeText location
  if ← place.isDir then return disk.put location .folder
  else if ← place.pathExists then
    match ← (IO.FS.readBinFile place).toBaseIO with
    | .ok data => return disk.put location (.file (.bytes data.toList))
    | .error _ => return disk.put location (.file .locked)
  else return disk

/-- The picture with everything on the way to a path. -/
def addPath (disk : Disk) (path : Path) : IO Disk :=
  (Disk.waysTo (disk.origin path ++ path.parts)).foldlM addPlace disk

/-- The picture with the levels of a folder. -/
def addLevels (disk : Disk) (folder : Path) : IO Disk := do
  let disk ← addPath disk folder
  if disk.isFolder folder then
    let here := (← IO.currentDir) / folder.text
    let names := (← here.readDir).toList.map fun entry => entry.fileName
    (names.filter Level.isFileName).foldlM (fun disk name => addPath disk (folder.child name)) disk
  else return disk

/-- The picture with a table's path and the place to which the table goes. -/
def addTable (disk : Disk) (path : Path) : IO Disk := do
  let disk ← addPath disk (disk.writtenOut path)
  match disk.placeOfTable path with
  | .ok (.onDisk text) => addPath disk (Path.ofText text)
  | _ => return disk

/-- The picture with what a flag names. -/
def addGiven (add : Disk → Path → IO Disk) (disk : Disk) : Given Path → IO Disk
  | .value path => add disk path
  | .nothing => pure disk

/-- The picture with all that a request names. -/
def picture (disk : Disk) : Except UsageFault Request → IO Disk
  | .ok (.run origin settings) => do
      let disk ← match origin with
        | .file path => addGiven addPath disk path
        | .text _ => pure disk
      let disk ← addGiven addLevels disk settings.levelsDir
      match settings.outDir with
      | some (.value out) => do
          let disk ← addPath disk out.logs
          addTable (← addTable disk out.trace) out.summary
      | _ => pure disk
  | _ => pure disk

/-- One row of a table as text. -/
def rowText (values : List String) : String :=
  ",".intercalate values ++ "\n"

/-- What a file holds, as text. -/
def contentText : Content → String
  | .bytes _ | .locked => ""
  | .trace groups =>
      rowText (TraceRow.columns.map Prod.fst)
        ++ String.join (groups.flatten.map fun row => rowText (row.values.map toString))
  | .summary rows =>
      rowText (SummaryRow.columns.map Prod.fst)
        ++ String.join (rows.map fun row => rowText [toString row.version, toString row.level,
          toString row.programLength, RunReport.truthText row.completed, toString row.ticks,
          toString row.remaining])

/-- Carry out what changed in the picture, removals first and then folders before
what they hold. -/
def carryOut (before after : Disk) : IO Unit := do
  for (location, _) in before.entries do
    if (after.entry? location).isNone then
      IO.FS.removeFile (placeText location)
  for (location, entry) in after.entries.reverse do
    if before.entry? location != some entry then
      match entry with
      | .folder => IO.FS.createDirAll (placeText location)
      | .file content => IO.FS.writeFile (placeText location) (contentText content)

/-- The homes that are known: that of the one who works here. -/
def homes : IO (List (String × Path)) := do
  match ← IO.getEnv "HOME" with
  | some home => return [("", Path.ofText home)]
  | none => return []

/-- The code with which the program ends. -/
def exitCode : Ending → UInt32
  | .done | .helped => 0
  | .refused _ => 2
  | .broken _ => 1

/-- What the program complains about. -/
def complaint : Ending → List String
  | .done | .helped => []
  | .refused refusal => ["salmon-run: error: " ++ refusal.message]
  | .broken breakdown => [breakdown.message]

end RiverPuzzle.Main

open RiverPuzzle in
/-- The whole program. -/
def main (arguments : List String) : IO UInt32 := do
  let arguments := arguments.map String.toList
  let here ← IO.currentDir
  let start := Disk.blank (Main.placeNames here.toString) (← Main.homes)
  let before ← Main.picture start (Request.ofArguments arguments)
  let outcome := Command.run arguments before
  Main.carryOut before outcome.disk
  for line in outcome.log do
    IO.eprintln line
  IO.print outcome.output
  for line in Main.complaint outcome.ending do
    IO.eprintln line
  return Main.exitCode outcome.ending
