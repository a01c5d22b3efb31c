import CwlCompliance.Checks.Unsupported
import CwlCompliance.Digest.Sha256
import CwlCompliance.Structural.Outcome
import CwlCompliance.Text.Utf8

/-!
# Reports

A report collects what a run finds: the rules that were checked with their issues, what blocks the
package whatever the rules say, and what the structural validator said.  A package complies when
no issue is an error, nothing blocks, and the validator, if it ran, accepted the document; the
verdict is kept in the report and brought up to date with everything that is recorded.

## Main definitions

* `Failure` — something that blocks a package.
* `Report`, `Report.start`, `Report.recordRule`, `Report.recordFailure`, `Report.recordOutcome` —
  a report and how it grows.
* `Report.complies`, `Report.isValid` — what the verdict should be, and the verdict as it is kept.
* `Listing`, `Report.grouped`, `Report.passed` — the issues by rule.
-/

namespace CwlCompliance

/-- Something that blocks a package. -/
structure Failure where
  /-- Its code. -/
  code : Code
  /-- What it is. -/
  message : String
  /-- The names of the processes it is about. -/
  nodes : List String
  deriving DecidableEq, Repr

namespace Failure

/-- The failure that a fault is. -/
def ofFault (f : Fault) : Failure := ⟨f.code, f.message, []⟩

/-- The failure that tools with these names use an unsupported construct. -/
def unsupported (names : List String) : Failure :=
  { ofFault (unsupportedFault names) with nodes := names }

end Failure

/-- Issues by rule, each rule once and in the order in which the rules came up. -/
abbrev Listing := List (Rule × List Issue)

/-- A listing with more issues under a rule; a rule that is new comes last. -/
def Listing.add (rule : Rule) (issues : List Issue) : Listing → Listing
  | [] => [(rule, issues)]
  | (r, found) :: rest =>
    if r = rule then (r, found ++ issues) :: rest else (r, found) :: add rule issues rest

/-- What a run found. -/
structure Report where
  /-- Where the package came from. -/
  source : String
  /-- The entry point that was asked for. -/
  entryPoint : Option String
  /-- The digest of the text of the package. -/
  digest : String
  /-- The rules that were checked, each once, in the order in which they were first recorded. -/
  rules : List Rule := []
  /-- The issues in the order in which they were recorded. -/
  issues : List Issue := []
  /-- What blocks the package. -/
  blocking : List Failure := []
  /-- What the structural validator said last. -/
  structural : Option Outcome := none
  /-- The verdict. -/
  valid : Bool := true

namespace Report

/-! ### The verdict -/

/-- Whether the package complies by what the report holds. -/
def complies (r : Report) : Bool :=
  !r.issues.any Issue.isError && r.blocking.isEmpty && r.structural.all Outcome.isValid

/-- The report with its verdict brought up to date. -/
def refreshed (r : Report) : Report := { r with valid := r.complies }

/-- Whether the package complies as far as the report knows. -/
def isValid (r : Report) : Bool := r.valid

/-! ### Recording -/

/-- A report about a package before anything was checked. -/
def start (source : String) (p : Package) (entryPoint : Option String) : Report :=
  { source, entryPoint, digest := Sha256.hex (Utf8.encode p.text) }

/-- The report after a rule was checked and raised these issues. -/
def recordRule (rule : Rule) (issues : List Issue) (r : Report) : Report :=
  refreshed { r with
    rules := if r.rules.contains rule then r.rules else r.rules ++ [rule]
    issues := r.issues ++ issues }

/-- The report after something turned out to block the package. -/
def recordFailure (failure : Failure) (r : Report) : Report :=
  refreshed { r with blocking := r.blocking ++ [failure] }

/-- The report after the structural validator ran. -/
def recordOutcome (outcome : Outcome) (r : Report) : Report :=
  refreshed { r with structural := some outcome }

/-! ### Reading -/

/-- The issues under a rule. -/
def issuesFor (r : Report) (rule : Rule) : List Issue := r.issues.filter fun i => i.rule = rule

/-- The issues of a severity. -/
def issuesOf (r : Report) (severity : IssueSeverity) : List Issue :=
  r.issues.filter fun i => i.severity = severity

/-- The issues by rule: the rules recorded come first, with or without issues, and those that only
issues name after them. -/
def grouped (r : Report) : Listing :=
  let recorded := r.rules.foldl (fun l rule => Listing.add rule [] l) []
  r.issues.foldl (fun l i => Listing.add i.rule [i] l) recorded

/-- Whether no error was raised under a rule. -/
def passed (r : Report) (rule : Rule) : Bool := !(r.issuesFor rule).any Issue.isError

end Report

end CwlCompliance
