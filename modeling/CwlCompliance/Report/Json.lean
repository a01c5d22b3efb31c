import CwlCompliance.Json.Value
import CwlCompliance.Report.Format
import CwlCompliance.Report.Text

/-!
# Reports as JSON

## Main definitions

* `Report.toJson` — the JSON object of a report.
* `Report.render` — a report in either format.
-/

namespace CwlCompliance

open Json (Value)

/-- The JSON object of an issue. -/
def Issue.toJson (i : Issue) : Value :=
  .object [("rule", .string i.rule.name), ("severity", .string i.severity.name),
    ("message", .string i.message)]

/-- The JSON object of a failure; the names are left out if there are none. -/
def Failure.toJson (unique : String) (f : Failure) : Value :=
  .object ([("code", .string (f.code.text unique)), ("message", .string f.message)] ++
    if f.nodes.isEmpty then [] else [("nodes", .array (f.nodes.map .string))])

/-- The JSON object of what a structural validator said. -/
def Outcome.toJson (o : Outcome) : Value :=
  .object [("exit_code", .integer o.exitCode), ("stdout", .string o.stdout),
    ("stderr", .string o.stderr)]

namespace Report

/-- The JSON object of a report made at a time. -/
def toJson (unique time : String) (r : Report) : Value :=
  .object [
    ("source", .string r.source),
    ("entry_point", .ofText? r.entryPoint),
    ("source_sha256", .string r.digest),
    ("generated_at", .string time),
    ("rules", .array (r.rules.map fun rule => .string rule.name)),
    ("issues", .array (r.issues.map Issue.toJson)),
    ("blocking", .array (r.blocking.map (Failure.toJson unique))),
    ("structural", (r.structural.map Outcome.toJson).getD .null),
    ("valid", .bool r.isValid)]

/-- A report made at a time, in a format; `unique` completes codes that were made up. -/
def render (unique time : String) (r : Report) : ReportFormat → String
  | .text => r.text unique
  | .json => (r.toJson unique time).pretty

end Report

end CwlCompliance
