import CwlCompliance.Report.Basic

/-!
# Validation

A validation checks every rule, looks for what is not supported, and takes in what a structural
validator said if one was run.  All of it goes into one report; nothing stops it.

## Main definitions

* `Package.validate` — the report of a validation.
-/

namespace CwlCompliance

namespace Report

/-- The report after every rule was checked. -/
def recordRules (p : Package) (entryPoint : Option String) (r : Report) : Report :=
  Rule.all.foldl (fun r rule => r.recordRule rule (rule.issues p entryPoint)) r

/-- The report after a search for what is not supported. -/
def recordUnsupported (p : Package) (entryPoint : Option String) (r : Report) : Report :=
  match (p.select entryPoint).unsupported with
  | [] => r
  | names => r.recordFailure (.unsupported names)

/-- The report after a structural validator was run, if one was. -/
def recordStructural (result : Option (Except Fault Outcome)) (r : Report) : Report :=
  match result with
  | none => r
  | some (.ok o) => r.recordOutcome o
  | some (.error f) => r.recordFailure (.ofFault f)

end Report

/-- The report of a validation, given what came of running a structural validator. -/
def Package.validate (p : Package) (source : String) (entryPoint : Option String)
    (structural : Option (Except Fault Outcome)) : Report :=
  ((Report.start source p entryPoint).recordRules p entryPoint).recordUnsupported p entryPoint
    |>.recordStructural structural

end CwlCompliance
