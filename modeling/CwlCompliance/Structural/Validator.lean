import CwlCompliance.Package.Selection
import CwlCompliance.Structural.Outcome
import CwlCompliance.Text.Utf8
import CwlCompliance.Yaml.Layout
import CwlCompliance.Yaml.Mark

/-!
# Running a structural validator

A structural validator is a program with arguments.  It is run on a copy of the document in block
layout, whose path is its last argument.  What the program does is not known here: it is up to the
launcher that starts it.

## Main definitions

* `Validator` — a program with arguments.
* `Execution`, `Launcher` — what a program does, and what becomes of starting programs.
* `Validator.runBy` — what a validator says about a package when a launcher starts it.
-/

namespace CwlCompliance

/-- A structural validator. -/
structure Validator where
  /-- The program. -/
  program : String
  /-- The arguments before the path of the document. -/
  arguments : List String
  deriving DecidableEq, Repr

/-- What a program did that was started. -/
structure Execution where
  /-- What it printed. -/
  stdout : List UInt8
  /-- What it printed as errors. -/
  stderr : List UInt8
  /-- The exit code, unless a signal ended it. -/
  code : Option Int

/-- What becomes of starting a program with arguments, the last of which is the path of a document
with some content: it does something, or for a reason cannot be started. -/
abbrev Launcher := String → List String → List UInt8 → Except String Execution

namespace Validator

/-- The name of the copy of the document. -/
def documentName : String := "app-package.cwl"

/-- The names on the way to the directory of the copy. -/
def directoryNames : List String := ["tmp", "ap-validator"]

/-- The path of the copy of the document. -/
def documentPath : String := "/" ++ "/".intercalate directoryNames ++ "/" ++ documentName

/-- What becomes of starting a program.  Neither its name nor the arguments can hold a null
character, which would end them early. -/
def launch (start : Launcher) (program : String) (arguments : List String) (copy : List UInt8) :
    Except String Execution :=
  if (program :: arguments).any fun s => s.toList.contains '\x00' then
    .error "nul byte found in provided data"
  else start program arguments copy

/-- The outcome that an execution is. -/
def outcome (e : Execution) : Outcome :=
  { exitCode := e.code.getD (-1)
    stdout := Utf8.decodeLossy e.stdout
    stderr := Utf8.decodeLossy e.stderr }

/-- The copy of the document of a package that a validator is run on. -/
def copyOf (p : Package) : Except Yaml.WritingFault (List UInt8) :=
  match p.document.value.writingFault? with
  | none => .ok (Utf8.encode p.document.value.layout)
  | some f => .error f

/-- What a validator says about a package when a launcher starts it.  Nothing is started before the
copy is written. -/
def runBy (start : Launcher) (v : Validator) (p : Package) : Except StructuralError Outcome :=
  match copyOf p with
  | .error f => .error (.notWritten v.program f.message)
  | .ok copy =>
    match launch start v.program (v.arguments ++ [documentPath]) copy with
    | .ok e => .ok (outcome e)
    | .error reason => .error (.notLaunched v.program reason)

end Validator

end CwlCompliance
