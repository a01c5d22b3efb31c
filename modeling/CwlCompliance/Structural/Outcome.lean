import CwlCompliance.Fault

/-!
# What a structural validator says

A structural validator is an external program that is run on a copy of the document.  All that
counts is its exit code; what it prints is reported as it is.

## Main definitions

* `Outcome` — the exit code and what was printed.
* `StructuralError` — why there is no outcome.
-/

namespace CwlCompliance

/-- What a run of a structural validator gave. -/
structure Outcome where
  /-- The exit code, or -1 when a signal ended the run. -/
  exitCode : Int
  /-- What it printed. -/
  stdout : String
  /-- What it printed as errors. -/
  stderr : String
  deriving DecidableEq, Repr

/-- Whether the validator accepted the document. -/
def Outcome.isValid (o : Outcome) : Bool := o.exitCode = 0

/-- Why a structural validator gave no outcome. -/
inductive StructuralError where
  /-- The program could not be started. -/
  | notLaunched (program reason : String)
  /-- The document could not be written out. -/
  | notWritten (program reason : String)
  /-- The copy of the document could not be written to disk. -/
  | notStored (reason : String)
  deriving DecidableEq, Repr

/-- The fault that a missing outcome is. -/
def StructuralError.fault : StructuralError → Fault
  | notLaunched program reason =>
    { category := .validator
      code := .given "AP-VALIDATOR-001"
      message := "Failed to launch structural validator '" ++ program ++ "': " ++ reason
      hints := ["install cwltool or set structural.command in ap-validator.toml"] }
  | notWritten program reason =>
    { category := .validator
      code := .given "AP-VALIDATOR-002"
      message := "failed to serialize document for " ++ program ++ ": " ++ reason
      cause := some reason }
  | notStored reason => Fault.ofIo reason

end CwlCompliance
