import CwlCompliance.CommandLine.Session
import Std.Time.Format

/-!
# The program

The outer layer: it looks at the disk, the environment and what is typed in, hands all of it to a
session, and carries out what the session answers.
-/

namespace CwlCompliance

/-! ### The disk -/

/-- What the disk holds at a path, if it can be read. -/
def diskEntry? (path : String) : IO (Option FileEntry) := do
  try
    let content ← IO.FS.readBinFile path
    return some (.file content.toList)
  catch
    | .inappropriateType .. => return some .directory
    | _ => return none

/-- The names on the way to each directory on a path, and to its end. -/
def waysTo (path : String) : List (List String) :=
  let names := FileTree.names path
  (List.range names.length).map fun n => names.take (n + 1)

/-- The tree with what the disk holds at some absolute paths and on the way to them. -/
def withDisk (paths : List String) (t : FileTree) : IO FileTree :=
  (paths.flatMap waysTo).foldlM
    (fun t names => do
      match ← diskEntry? ("/" ++ "/".intercalate names) with
      | some e => return t.set names e
      | none => return t)
    t

/-- Puts a file of a tree on the disk. -/
def writeBack (t : FileTree) (path : String) : IO Unit := do
  match t.find path with
  | .ok (.file content) =>
    match (waysTo path).reverse with
    | _ :: directory :: _ => IO.FS.createDirAll ("/" ++ "/".intercalate directory)
    | _ => pure ()
    IO.FS.writeBinFile path (ByteArray.mk content.toArray)
  | _ => pure ()

/-! ### The machine -/

/-- The names of the variables of the environment that matter. -/
def variableNames : List String :=
  ["AP_VALIDATOR_STRUCTURAL_ENABLED", "AP_VALIDATOR_STRUCTURAL_COMMAND", "AP_VALIDATOR_ENTRY_POINT",
    "AP_VALIDATOR_REPORT_FORMAT", "AP_VALIDATOR_LOG_DIR", "RUST_LOG", "HOME"]

/-- The environment of the program. -/
def readEnvironment : IO Variables :=
  variableNames.foldlM
    (fun e name => do
      match ← IO.getEnv name with
      | some value => return e ++ [(name, Utf8.encode value)]
      | none => return e)
    []

/-- The time, to the microsecond. -/
def currentTime : IO String := do
  let now ← Std.Time.Timestamp.now
  let date := Std.Time.PlainDateTime.ofWallTime (now.toWallTime Std.Time.TimeZone.UTC.offset)
  return date.format "uuuu-MM-dd'T'HH:mm:ss.SSSSSS'Z'"

/-- The paths on which a run can depend: of the settings and of the package. -/
def pathsOf (m : Machine) (r : Request) : List String :=
  let settings := r.settingsFile.getD Settings.fileName
  let package :=
    match Location.ofLocator r.command.source with
    | .ok (.onDisk path) => [Utf8.decodeLossy path]
    | _ => []
  (settings :: package).map (Path.join m.files.workingPath)

/-- The path of the log file, if the settings ask for one. -/
def logPath? (m : Machine) (r : Request) : Option String := do
  let s ← (m.settings r.settingsFile).toOption
  let l ← (LogSettings.ofSection m.environment s.logging).toOption
  if l.toFile then Path.join m.files.workingPath (l.filePath m.environment) else none

/-- The machine that the program runs on, as far as some words of a command line reach, and the
path of its log file. -/
def readMachine (words : List String) : IO (Machine × Option String) := do
  let here := (← IO.currentDir).toString
  let names := FileTree.names here
  let files : FileTree := { entries := [(names, .directory)], workingDirectory := names }
  let environment ← readEnvironment
  let m : Machine :=
    { files, environment, time := ← currentTime, elapsed := "0"
      unique := toString (← IO.rand 0 (Nat.pow 2 64)) }
  match Request.ofWords words with
  | .error _ => return (m, none)
  | .ok r =>
    let m := { m with files := ← withDisk (pathsOf m r) m.files }
    let log := logPath? m r
    let m := { m with files := ← withDisk log.toList m.files }
    if r.command.source = inputSource then
      let input ← (← IO.getStdin).readBinToEnd
      return ({ m with input := input.toList }, log)
    else return (m, log)

end CwlCompliance

/-- Runs a command line. -/
def main (words : List String) : IO UInt32 := do
  let (m, log) ← CwlCompliance.readMachine words
  let a := m.answer words
  log.forM (CwlCompliance.writeBack a.files)
  IO.print a.stdout
  IO.eprint a.stderr
  return a.code.toUInt32
