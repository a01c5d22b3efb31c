import CwlCompliance.Fault
import CwlCompliance.Report.Format
import CwlCompliance.Source.FileTree
import CwlCompliance.Structural.Validator
import CwlCompliance.Text.Utf8

/-!
# Settings

What can be set about a run: by a file, by variables of the environment, and by neither.

## Main definitions

* `Settings` — what can be set, with what holds when nothing is.
* `SettingsError` — what can be wrong with it.
* `Variables`, `Variables.get?` — the variables of the environment, and what one of them says.
* `Settings.override` — the settings that variables change.
* `Settings.check` — whether settings make sense.
-/

namespace CwlCompliance

/-- What can be set about the structural validator. -/
structure StructuralSettings where
  /-- Whether a validation runs it. -/
  enabled : Bool := true
  /-- The validator. -/
  validator : Validator := ⟨"cwltool", ["--validate"]⟩
  deriving DecidableEq, Repr

/-- What can be set about logs. -/
structure LoggingSection where
  /-- The directory of the log file. -/
  directory : Option String := none
  /-- What is logged. -/
  level : Option String := none
  /-- Whether there is a log file. -/
  toFile : Option Bool := none
  /-- Where else logs go. -/
  console : Option String := none
  deriving DecidableEq, Repr

/-- What can be set about a run. -/
structure Settings where
  /-- The structural validator. -/
  structural : StructuralSettings := {}
  /-- The entry point. -/
  entryPoint : Option String := none
  /-- The format of reports. -/
  format : ReportFormat := .text
  /-- Logs. -/
  logging : LoggingSection := {}
  deriving DecidableEq, Repr

/-! ### Errors -/

/-- What can be wrong with settings. -/
inductive SettingsError where
  /-- There is no file where one is said to be. -/
  | noFile (path : String)
  /-- The file cannot be read. -/
  | unreadable (path : String) (reason : FileError)
  /-- The file does not hold settings. -/
  | malformed (path : String)
  /-- A validator is to run but none is named. -/
  | noCommand
  /-- The entry point is blank. -/
  | blankEntryPoint
  deriving DecidableEq, Repr

/-- The fault that wrong settings are. -/
def SettingsError.fault : SettingsError → Fault
  | noFile path =>
    { category := .config, code := .given "AP-CONFIG-001"
      message := "Config file " ++ path ++ " does not exist" }
  | unreadable path reason =>
    { category := .io, message := "Failed to read config file " ++ path ++ ": " ++ reason.message }
  | malformed path =>
    { category := .config, code := .given "AP-CONFIG-002"
      message := "Failed to parse config file " ++ path ++ ": no settings in TOML" }
  | noCommand =>
    { category := .config, code := .given "AP-CONFIG-003"
      message := "structural.command cannot be empty when structural.enabled is true" }
  | blankEntryPoint =>
    { category := .config, code := .given "AP-CONFIG-004"
      message := "checks.entry_point cannot be blank" }

/-! ### The environment -/

/-- The variables of the environment.  Their values are bytes, which need not write a text. -/
abbrev Variables := List (String × List UInt8)

/-- An environment in which every variable holds a text. -/
abbrev Environment := List (String × String)

/-- The variables of such an environment. -/
def Environment.variables (e : Environment) : Variables :=
  e.map fun (name, text) => (name, Utf8.encode text)

instance : Coe Environment Variables := ⟨Environment.variables⟩

namespace Variables

/-- The text that a variable holds.  One whose value writes no text might as well not be there. -/
def get? (e : Variables) (name : String) : Option String := (e.lookup name).bind Utf8.decode?

/-- The text that a variable holds, unless it is blank. -/
def getProper? (e : Variables) (name : String) : Option String :=
  (e.get? name).filter fun s => !Text.isBlank s

end Variables

/-- The truth value that a text is the name of. -/
def truth? (s : String) : Option Bool :=
  if s = "true" then some true else if s = "false" then some false else none

namespace Settings

/-- Whether a validation runs the structural validator, with the variable for it. -/
def enabledIn (e : Variables) (s : Settings) : Bool :=
  ((e.get? "AP_VALIDATOR_STRUCTURAL_ENABLED").bind truth?).getD s.structural.enabled

/-- The program of the structural validator, with the variable for it. -/
def programIn (e : Variables) (s : Settings) : String :=
  (e.get? "AP_VALIDATOR_STRUCTURAL_COMMAND").getD s.structural.validator.program

/-- The entry point, with the variable for it. -/
def entryPointIn (e : Variables) (s : Settings) : Option String :=
  (e.getProper? "AP_VALIDATOR_ENTRY_POINT").or s.entryPoint

/-- The format of reports, with the variable for it. -/
def formatIn (e : Variables) (s : Settings) : ReportFormat :=
  ((e.get? "AP_VALIDATOR_REPORT_FORMAT").bind ReportFormat.ofText?).getD s.format

/-- The settings with what variables of the environment change.  A variable that makes no sense
changes nothing. -/
def override (e : Variables) (s : Settings) : Settings :=
  { s with
    structural :=
      { enabled := s.enabledIn e
        validator := { s.structural.validator with program := s.programIn e } }
    entryPoint := s.entryPointIn e
    format := s.formatIn e }

/-- Settings that make sense. -/
def check (s : Settings) : Except SettingsError Unit :=
  if s.structural.enabled && Text.isBlank s.structural.validator.program then .error .noCommand
  else if s.entryPoint.any Text.isBlank then .error .blankEntryPoint
  else .ok ()

end Settings

end CwlCompliance
