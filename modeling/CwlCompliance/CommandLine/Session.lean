import CwlCompliance.CommandLine.Run
import CwlCompliance.CommandLine.Words
import CwlCompliance.Logging.Settings
import CwlCompliance.Settings.Reader

/-!
# Sessions

A session is all that happens from the words of a command line to an exit code: the words are read,
the settings are loaded and checked, the logs are opened, and the command is run.

## Main definitions

* `Logs`, `Machine.openLogs` — where events go.
* `Answer` — what a session leaves.
* `Machine.answer` — the session for some words.
-/

namespace CwlCompliance

/-- Where events go. -/
structure Logs where
  /-- Which events are logged. -/
  filter : Filter
  /-- Where on the console they go. -/
  console : Console
  /-- The path of the log file, if there is one. -/
  file : Option String

/-- What a session leaves. -/
structure Answer where
  /-- The exit code. -/
  code : Nat
  /-- The output. -/
  stdout : String := ""
  /-- The complaints. -/
  stderr : String := ""
  /-- The files. -/
  files : FileTree

/-! ### Preparation -/

namespace Machine

/-- The settings for a run, if they make sense. -/
def settings (m : Machine) (file : Option String) : Except Trouble Settings :=
  let result := do
    let s ← Settings.load m.files m.environment file m.files.workingPath
    s.check
    return s
  result.mapError fun e => .fault e.fault

/-- The files with an empty log file, unless there is one already. -/
def withLogFile (m : Machine) (s : LogSettings) : Except Trouble FileTree :=
  let directory := Path.trimmed (s.directoryPath m.environment)
  let path := s.filePath m.environment
  match m.files.makeDirectories directory with
  | .error e =>
    .error (.plain ("failed to create log directory " ++ directory ++ ": " ++ e.message))
  | .ok files =>
    (files.append path "").mapError fun e =>
      .plain ("failed to open log file " ++ path ++ ": " ++ e.message)

/-- The logs of a run, and the files with the log file. -/
def openLogs (m : Machine) (s : LoggingSection) : Except Trouble (Logs × FileTree) := do
  let s ← (LogSettings.ofSection m.environment s).mapError fun e => .plain e.message
  let filter ← (s.filter m.environment).mapError fun e =>
    .plain ("failed to configure tracing level: " ++ e.message)
  if s.toFile then
    let files ← m.withLogFile s
    return ({ filter, console := s.console, file := some (s.filePath m.environment) }, files)
  else return ({ filter, console := s.console, file := none }, m.files)

end Machine

/-! ### Streams -/

namespace Logs

/-- The line that is logged for a remark; only events are logged. -/
def lineOf (l : Logs) (time : String) : Remark → String
  | .event e => if l.filter.admitsEvent e then e.line time else ""
  | _ => ""

/-- What a remark adds to the output. -/
def toStdout (l : Logs) (time : String) (r : Remark) : String :=
  match r with
  | .output text => text
  | .event _ => if l.console = .stdout then l.lineOf time r else ""
  | .complaint _ => ""

/-- What a remark adds to the complaints. -/
def toStderr (l : Logs) (time : String) (r : Remark) : String :=
  match r with
  | .complaint text => text
  | .event _ => if l.console = .stderr then l.lineOf time r else ""
  | .output _ => ""

/-- The files with what remarks add to the log file. -/
def written (l : Logs) (time : String) (remarks : List Remark) (files : FileTree) : FileTree :=
  match l.file with
  | none => files
  | some path =>
    match files.append path (String.join (remarks.map (l.lineOf time))) with
    | .ok files => files
    | .error _ => files

/-- What a run leaves. -/
def answer (l : Logs) (time : String) (files : FileTree) (r : Run) : Answer :=
  { code := r.exit.code
    stdout := String.join (r.remarks.map (l.toStdout time))
    stderr := String.join (r.remarks.map (l.toStderr time))
    files := l.written time r.remarks files }

end Logs

/-! ### Sessions -/

/-- The name and the version of the program. -/
def programVersion : String := "ap-validator 0.3.0"

/-- How the program is used. -/
def usage : String :=
  "Check OGC EO Application Packages against the CWL best-practice requirements\n\n" ++
    "USAGE:\n" ++
    "    ap-validator [--config FILE] validate [--entry-point NAME] [--format FORMAT] " ++
    "[--skip-structural] SOURCE\n" ++
    "    ap-validator [--config FILE] check [--entry-point NAME] RULE SOURCE\n" ++
    "    ap-validator [--config FILE] structure SOURCE\n"

namespace Machine

/-- The answer to a command line that asks for nothing to be done. -/
def stop (m : Machine) : Stop → Answer
  | .help => { code := 0, stdout := usage, files := m.files }
  | .version => { code := 0, stdout := programVersion ++ "\n", files := m.files }
  | .misuse => { code := 2, stderr := usage, files := m.files }

/-- The answer when something stops a run before it starts. -/
def trouble (m : Machine) (t : Trouble) : Answer :=
  { code := ExitStatus.failed.code, stderr := t.report m.unique, files := m.files }

/-- What has to be there before a command is run. -/
def prepare (m : Machine) (r : Request) : Except Trouble (Settings × Logs × FileTree) := do
  let s ← m.settings r.settingsFile
  let (logs, files) ← m.openLogs s.logging
  return (s, logs, files)

/-- The answer to a request. -/
def fulfil (m : Machine) (r : Request) : Answer :=
  match m.prepare r with
  | .error t => m.trouble t
  | .ok (s, logs, files) => logs.answer m.time files (r.command.run { m with files } s)

/-- The session for the words of a command line. -/
def answer (m : Machine) (words : List String) : Answer :=
  match Request.ofWords words with
  | .error stop => m.stop stop
  | .ok r => m.fulfil r

end Machine

end CwlCompliance
