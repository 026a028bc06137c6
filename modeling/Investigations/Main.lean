/-
The command line. The part of the disk that an invocation may touch is read into a file tree, the
invocation is run on that, and what has changed in the tree is written back.
-/
import Investigations.Command.Run

namespace Investigations.Command

open Files

/-! ## Reading the disk -/

/-- The path of a place, from the root of the disk. -/
def absolutePath (place : Place) : String :=
  "/" ++ "/".intercalate place

/-- What stands at a place on the disk: a file with its bytes, or a directory, of which no entry
is read. -/
def probe (place : Place) : IO (Option Tree) := do
  let path := absolutePath place
  let isDirectory ← try
      discard (IO.FS.realPath (path ++ "/."))
      pure true
    catch _ => pure false
  if isDirectory then return some (.directory [])
  try
    let content ← IO.FS.readBinFile path
    return some (.file content.data.toList)
  catch _ => return none

/-- Reads what is on the way of a walk, as far as it exists. -/
def readWay (disk : Disk) (here : Place) : List Step → IO Disk
  | [] => return disk
  | .up :: rest => readWay disk here.dropLast rest
  | .into name :: rest => do
    let place := here ++ [name]
    match disk.root.get? place with
    | some _ => readWay disk place rest
    | none =>
      match ← probe place with
      | some node => readWay { disk with root := disk.root.set place node } place rest
      | none => return disk

/-- Reads the files at these paths and the directories on the way. -/
def readFiles (disk : Disk) (paths : List Path) : IO Disk :=
  paths.foldlM (fun disk path => readWay disk (disk.start path) path.steps) disk

/-- The disk with the working directory, of which nothing is read. -/
def readWorkingDirectory : IO Disk := do
  let cwd : Path := ⟨toString (← IO.currentDir)⟩
  let disk : Disk := ⟨.directory [], []⟩
  let disk ← readFiles disk [cwd]
  let place := cwd.steps.filterMap fun
    | .into name => some name
    | .up => none
  return { disk with cwd := place }

/-! ## Writing the disk -/

/-- The directories and files of a tree that are not in `before` as they are, from the top down. -/
partial def changes (before : Option Tree) (place : Place) (after : Tree) :
    List (Place × Option (List UInt8)) :=
  match after with
  | .file content =>
    match before with
    | some (.file same) => if same = content then [] else [(place, some content)]
    | _ => [(place, some content)]
  | .directory entries =>
    let made :=
      match before with
      | some (.directory _) => []
      | _ => [(place, none)]
    made ++ entries.flatMap fun (name, child) =>
      changes (before.bind (·.get? [name])) (place ++ [name]) child

/-- Makes a directory, or writes a file next to its place and moves it there. -/
def writeChange (place : Place) : Option (List UInt8) → IO Unit
  | none => IO.FS.createDir (absolutePath place)
  | some content => do
    let path := absolutePath place
    let unfinished := path ++ ".unfinished"
    IO.FS.writeBinFile unfinished ⟨content.toArray⟩
    IO.FS.rename unfinished path

/-! ## Running -/

/-- A line for an event. -/
def eventLine (event : Event) : String :=
  let level := match event.level with
    | .debug => "DEBUG"
    | .warning => "WARN"
  let fields := event.fields.map fun (name, value) =>
    " " ++ name ++ "=" ++ match value with
      | .text text => text
      | .number n => toString n
  level ++ " " ++ event.message ++ String.join fields

/-- Prints what a run came to. -/
def Report.display (report : Report) (verbose : Bool) : IO Unit := do
  for event in report.events do
    if verbose || event.level = .warning then IO.eprintln (eventLine event)
  IO.print report.printed
  if let some line := report.complaint then IO.eprintln line

/-- Runs the command on the disk. -/
def runOnDisk (arguments : List String) : IO UInt32 := do
  let disk ← readWorkingDirectory
  match parse arguments with
  | .error stop =>
    let report := stop.report disk
    if stop = .refused then IO.eprint usage
    report.display false
    return report.exitCode.toUInt32
  | .ok invocation =>
    let disk ← readFiles disk invocation.settings.configFile.toList
    let disk ← readFiles disk (invocation.files disk)
    let report := invocation.run disk
    try
      for (place, content) in changes (some disk.root) [] report.disk.root do
        writeChange place content
    catch failure =>
      IO.eprintln ("error: io error: " ++ toString failure)
      return 1
    report.display invocation.verbose
    return report.exitCode.toUInt32

end Investigations.Command

/-- The command. -/
def main (arguments : List String) : IO UInt32 :=
  Investigations.Command.runOnDisk arguments
