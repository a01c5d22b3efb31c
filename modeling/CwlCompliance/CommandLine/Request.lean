import CwlCompliance.Report.Format

/-!
# Requests

What a run can be asked to do: a full validation, a check of one rule, or a run of the structural
validator alone.

## Main definitions

* `Command`, `Request` — what a command line asks for.
* `Stop` — why nothing is asked for.
-/

namespace CwlCompliance

/-- A full validation. -/
structure ValidateCommand where
  /-- Where the package is. -/
  source : String
  /-- The entry point. -/
  entryPoint : Option String := none
  /-- The format of the report. -/
  format : Option ReportFormat := none
  /-- Whether the structural validator is not run. -/
  skipStructural : Bool := false
  deriving DecidableEq, Repr

/-- A check of one rule. -/
structure CheckCommand where
  /-- What names the rule. -/
  rule : String
  /-- Where the package is. -/
  source : String
  /-- The entry point. -/
  entryPoint : Option String := none
  deriving DecidableEq, Repr

/-- A run of the structural validator alone. -/
structure StructureCommand where
  /-- Where the package is. -/
  source : String
  deriving DecidableEq, Repr

/-- What is to be done. -/
inductive Command where
  /-- A full validation. -/
  | validate (c : ValidateCommand)
  /-- A check of one rule. -/
  | check (c : CheckCommand)
  /-- A run of the structural validator alone. -/
  | structural (c : StructureCommand)
  deriving DecidableEq, Repr

/-- Where the package is that a command is about. -/
def Command.source : Command → String
  | validate c => c.source
  | check c => c.source
  | structural c => c.source

/-- What a command line asks for. -/
structure Request where
  /-- The file that holds the settings. -/
  settingsFile : Option String := none
  /-- What is to be done. -/
  command : Command
  deriving DecidableEq, Repr

/-- Why a command line asks for nothing to be done. -/
inductive Stop where
  /-- It asks how the program is used. -/
  | help
  /-- It asks which version the program is. -/
  | version
  /-- It makes no sense. -/
  | misuse
  deriving DecidableEq, Repr

end CwlCompliance
