import CwlCompliance.Report.Basic

/-!
# Reports as text

The text of a report is a sequence of sections: a header, what the structural validator said, the
rules with their issues, what blocks the package, and the verdict.

## Main definitions

* `Report.header`, `Report.structuralSection`, `Report.ruleSection`, `Report.blockingSection`,
  `Report.verdictLine` — the sections.
* `Report.text` — the whole.
-/

namespace CwlCompliance

/-- A text whose last line is ended. -/
def endLine (s : String) : String := if s.toList.getLast? = some '\n' then s else s ++ "\n"

/-- What a validator printed on a stream, under the name of the stream; nothing if it is blank. -/
def streamSection (name text : String) : String :=
  if Text.isBlank text then "" else "--- " ++ name ++ " ---\n" ++ endLine text

/-- The section about what a structural validator said. -/
def Outcome.reportSection (o : Outcome) : String :=
  "Structural validation: " ++ (if o.isValid then "passed" else "failed") ++ " (exit code " ++
    toString o.exitCode ++ ")\n" ++ streamSection "stdout" o.stdout ++
    streamSection "stderr" o.stderr

/-- The verdict on a rule. -/
def verdict (passed : Bool) : String := if passed then "PASS" else "FAIL"

/-- The heading of a rule. -/
def Rule.heading (passed : Bool) (rule : Rule) : String := verdict passed ++ " " ++ rule.name ++ "\n"

/-- A rule with its issues. -/
def ruleListing (passed : Bool) (rule : Rule) (issues : List Issue) : String :=
  rule.heading passed ++ String.join (issues.map Issue.line)

/-- The lines about a failure. -/
def Failure.listing (unique : String) (f : Failure) : String :=
  "  [" ++ f.code.text unique ++ "] " ++ f.message ++ "\n" ++
    String.join (f.nodes.map fun n => "    - " ++ n ++ "\n")

namespace Report

/-- The header. -/
def header (r : Report) : String :=
  "Application Package validation report\nSource: " ++ r.source ++ "\nEntry point: " ++
    r.entryPoint.getD "(all workflows)" ++ "\nSHA-256: " ++ r.digest ++ "\n"

/-- The section about the structural validator. -/
def structuralSection (r : Report) : String :=
  match r.structural with
  | some o => o.reportSection
  | none => "Structural validation: skipped\n"

/-- The section about the rules. -/
def ruleSection (r : Report) : String :=
  String.join (r.grouped.map fun (rule, issues) => ruleListing (r.passed rule) rule issues)

/-- The section about what blocks the package; nothing if nothing does. -/
def blockingSection (unique : String) (r : Report) : String :=
  if r.blocking.isEmpty then ""
  else "\nBlocking failures:\n" ++ String.join (r.blocking.map (Failure.listing unique))

/-- The last line. -/
def verdictLine (r : Report) : String :=
  "Result: " ++ (if r.isValid then "COMPLIANT" else "NOT COMPLIANT") ++ "\n"

/-- The text of a report; `unique` completes codes that were made up. -/
def text (unique : String) (r : Report) : String :=
  r.header ++ "\n" ++ r.structuralSection ++ "\n" ++ r.ruleSection ++ r.blockingSection unique ++
    "\n" ++ r.verdictLine

end Report

end CwlCompliance
