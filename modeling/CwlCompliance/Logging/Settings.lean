import CwlCompliance.Logging.Level
import CwlCompliance.Settings.Basic

/-!
# Settings for logs

What is logged and where it goes, from the settings and the environment.  Logs go to the console
unless they are switched off, and to a file if one is asked for.

## Main definitions

* `Console`, `Console.ofText?` — where on the console logs go.
* `LogSettings`, `LogSettings.ofSection` — what holds for the logs of a run.
* `LogSettings.filePath` — where the log file is.
-/

namespace CwlCompliance

/-- Where on the console logs go. -/
inductive Console where
  /-- With the output. -/
  | stdout
  /-- With the errors. -/
  | stderr
  /-- Nowhere. -/
  | none
  deriving DecidableEq, Repr

namespace Console

/-- All choices. -/
def all : List Console := [stdout, stderr, none]

/-- The name of a choice. -/
def name : Console → String
  | stdout => "stdout"
  | stderr => "stderr"
  | none => "none"

/-- The choice that a text names; case and surrounding white space do not matter. -/
def ofText? (s : String) : Option Console :=
  all.find? fun c => Text.sameIgnoringCase c.name (Text.trim s)

end Console

/-- What can be wrong with settings for logs. -/
inductive LogSettingsError where
  /-- A text names no place on the console. -/
  | unknownConsole (text : String)
  /-- A text says not what is logged. -/
  | unknownLevel (text : String)
  deriving DecidableEq, Repr

/-- The wording of what is wrong. -/
def LogSettingsError.message : LogSettingsError → String
  | unknownConsole text =>
    "invalid logging.console_output '" ++ text ++ "'; supported values are stdout, stderr, none"
  | unknownLevel text =>
    "logging.default_level '" ++ text ++ "' is not a level name or a target=level directive"

/-- The choice that a text names, or that it names none. -/
def Console.ofText (s : String) : Except LogSettingsError Console :=
  match ofText? s with
  | some c => .ok c
  | Option.none => .error (.unknownConsole s)

/-- What holds for the logs of a run. -/
structure LogSettings where
  /-- The directory of the log file, if another than the usual one. -/
  directory : Option String := none
  /-- What is logged. -/
  level : String := "info"
  /-- Whether there is a log file. -/
  toFile : Bool := false
  /-- Where on the console logs go. -/
  console : Console := .stderr
  deriving DecidableEq, Repr

namespace LogSettings

/-- Whether a text says what is logged: a level, or a directive with an equals sign. -/
def isLevel (s : String) : Bool :=
  let s := Text.trim s
  if s.toList.contains '=' then (Directive.ofText s).isOk else (Level.ofText? s).isSome

/-- The directory of the log file that a variable of the environment names. -/
def directoryIn (e : Variables) : Option String := e.getProper? "AP_VALIDATOR_LOG_DIR"

/-- The settings with what the environment changes: a directory also asks for the log file. -/
def override (e : Variables) (s : LogSettings) : LogSettings :=
  match directoryIn e with
  | some directory => { s with directory, toFile := true }
  | none => s

/-- The place on the console that a section names, or the usual one. -/
def consoleOf (s : LoggingSection) : Except LogSettingsError Console :=
  match s.console with
  | some text => Console.ofText text
  | none => .ok .stderr

/-- What holds for the logs of a run with these settings in this environment. -/
def ofSection (e : Variables) (s : LoggingSection) : Except LogSettingsError LogSettings := do
  let console ← consoleOf s
  let settings : LogSettings :=
    { directory := s.directory, level := s.level.getD "info", toFile := s.toFile.getD false, console }
  if isLevel settings.level then return settings.override e
  else throw (.unknownLevel settings.level)

/-- The home directory, which need not have a name that is a text. -/
def home (e : Variables) : String :=
  (((e.lookup "HOME").filter fun bytes => !bytes.isEmpty).map Utf8.decodeLossy).getD "/root"

/-- The directory of the log file. -/
def directoryPath (e : Variables) (s : LogSettings) : String :=
  match s.directory with
  | some directory => Path.join (home e) directory
  | none => Path.join (Path.join (home e) ".ap-validator") "logs"

/-- The path of the log file. -/
def filePath (e : Variables) (s : LogSettings) : String :=
  Path.join (s.directoryPath e) "ap-validator.log"

/-- What is logged.  A variable of the environment that makes sense decides before the settings. -/
def filter (e : Variables) (s : LogSettings) : Except DirectiveError Filter :=
  match (e.get? "RUST_LOG").map Filter.ofText with
  | some (.ok f) => .ok f
  | _ => Filter.ofText s.level

end LogSettings

end CwlCompliance
