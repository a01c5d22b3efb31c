import CwlCompliance.CommandLine.Request
import CwlCompliance.Fault.Text
import CwlCompliance.Logging.Event
import CwlCompliance.Settings.Basic
import CwlCompliance.Source.Locator
import CwlCompliance.Structural.Scripted

/-!
# The machine of a run

All that a run depends on besides its command line makes up the machine it takes place on.  A run
gets its package from there.

## Main definitions

* `Machine` — files, environment, network, input, structural validators, and what differs from
  run to run.
* `Trouble` — what stops a run.
* `Machine.packageAt` — the package at a source.
* `Machine.loadingEvents` — what is logged about it.
-/

namespace CwlCompliance

/-- The machine of a run: all that the run depends on besides its command line. -/
structure Machine where
  /-- The files. -/
  files : FileTree
  /-- The variables of the environment. -/
  environment : Variables := []
  /-- What requests over the network come to. -/
  network : Network := .offline
  /-- What is typed in. -/
  input : List UInt8 := []
  /-- What structural validators say about packages. -/
  structural : Validator → Package → Except StructuralError Outcome :=
    fun v p => v.run { files, environment } p
  /-- The time. -/
  time : String := ""
  /-- How long a structural validator takes, in milliseconds. -/
  elapsed : String := ""
  /-- A text that no other run has. -/
  unique : String := ""

/-- What stops a run. -/
inductive Trouble where
  /-- A fault. -/
  | fault (f : Fault)
  /-- Something that only has a wording. -/
  | plain (message : String)
  deriving DecidableEq, Repr

/-- The lines that report what stopped a run; `unique` completes a code that was made up. -/
def Trouble.report (unique : String) : Trouble → String
  | fault f => f.report unique
  | plain message => "[ERROR] " ++ message ++ "\n"

/-- The source that stands for what is typed in. -/
def inputSource : String := "-"

/-- How a source is called. -/
def sourceLabel (source : String) : String := if source = inputSource then "<stdin>" else source

namespace Event

/-- A package is read from a file. -/
def reading (path : String) : Event :=
  { origin := .retrieval, level := .debug, message := "reading application package from " ++ path }

/-- A package is fetched from a URL. -/
def fetching (url : Url) : Event :=
  { origin := .retrieval, level := .debug
    message := "fetching application package from " ++ url.text }

/-- A package of so many bytes was typed in. -/
def typedIn (bytes : Nat) : Event :=
  { origin := .commands, level := .debug, message := "read application package from stdin"
    fields := [("bytes", .number bytes)] }

/-- The text of a package declares processes. -/
def parsed (p : Package) : Event :=
  { origin := .package, level := .debug, message := "parsed application package"
    fields :=
      [("nodes", .number p.processes.length), ("workflows", .number p.workflowPositions.length),
        ("command_line_tools", .number p.toolPositions.length)] }

/-- A package is there. -/
def loaded (source : String) : Event :=
  { origin := .package, level := .info, message := "loaded application package"
    fields := [("location", .quoted source)] }

end Event

namespace Machine

/-- The text at a source. -/
def textAt (m : Machine) (source : String) : Except Trouble String :=
  if source = inputSource then
    match Utf8.decode? m.input with
    | some text => .ok text
    | none =>
      .error (.plain ("failed to read Application Package from stdin: " ++ FileError.notText.message))
  else (m.files.fetch source m.network).mapError fun e => .fault e.fault

/-- The package at a source. -/
def packageAt (m : Machine) (source : String) : Except Trouble Package := do
  let text ← m.textAt source
  (Package.ofText text).mapError fun e => .fault e.fault

/-- What is logged about where a source points to. -/
def retrievalEvents (source : String) : List Event :=
  match Location.ofLocator source with
  | .ok (.remote url) => [.fetching url]
  | .ok (.onDisk path) => [.reading (Utf8.decodeLossy path)]
  | .error _ => []

/-- What is logged about getting the package at a source. -/
def loadingEvents (m : Machine) (source : String) : List Event :=
  if source = inputSource then
    match m.textAt source, m.packageAt source with
    | .ok text, .ok p => [.typedIn text.utf8ByteSize, .parsed p]
    | .ok text, .error _ => [.typedIn text.utf8ByteSize]
    | .error _, _ => []
  else
    match m.packageAt source with
    | .ok p => retrievalEvents source ++ [.parsed p, .loaded source]
    | .error _ => retrievalEvents source

end Machine

end CwlCompliance
