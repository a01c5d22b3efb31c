import CwlCompliance.Script.Run
import CwlCompliance.Structural.Validator

/-!
# Validators that are scripts

One launcher: it starts the shells and the tools of a workplace, and so lets a structural validator
be a script.  A run can do with any other launcher.

## Main definitions

* `Workplace.launcher` — the launcher of a workplace.
* `Validator.run` — what a validator says about a package in a workplace.
-/

namespace CwlCompliance

namespace Script

/-- The execution that a result is. -/
def Result.execution (r : Result) : Execution :=
  { stdout := r.stdout
    stderr := r.stderr
    code := match r.ending with
      | .exited code => some code
      | .killed _ => none }

namespace Workplace

/-- A workplace with the copy of a document in it. -/
def withCopy (copy : List UInt8) (w : Workplace) : Workplace :=
  { w with
    files := w.files.set (Validator.directoryNames ++ [Validator.documentName]) (.file copy) }

/-- The launcher of a workplace. -/
def launcher (w : Workplace) : Launcher := fun program arguments copy =>
  match execute (withCopy copy w) program arguments with
  | .ok r => .ok r.execution
  | .error e => .error e.message

end Workplace

end Script

/-- What a validator says about a package in a workplace. -/
def Validator.run (v : Validator) (w : Script.Workplace) (p : Package) :
    Except StructuralError Outcome := v.runBy w.launcher p

end CwlCompliance
