import CwlCompliance.Proofs.Report.Grouping
import CwlCompliance.Proofs.Report.Verdict

/-!
# Histories of reports

A report grows by recordings: rules with their issues, whatever rules these name, faults
and failures that block the package, and outcomes of the structural validator.  Whatever
is recorded, how often and in which order, the report says in the end what its history
says.

## Main definitions

* `Recording`, `Report.record`, `Report.recordAll` — what is recorded, and a report after it.
* `Recording.allIssues`, `Recording.allFailures`, `Recording.lastOutcome?` — what a history
  of recordings holds.
* `Report.Reflects` — a report says what a history says.

## Main results

* `Report.issues_record`, `Report.rules_record`, … — what one recording adds.
* `Report.issues_recordAll`, `Report.rules_recordAll`, … — what a history adds.
* `Report.reflects_recordAll` — **a report says what its history says**, and its verdict
  does not depend on the order.
* `Package.validate_eq_recordAll` — the history of a validation.
-/

namespace CwlCompliance

/-- Something that is recorded in a report. -/
inductive Recording where
  /-- A rule was checked and raised issues. -/
  | rule (rule : Rule) (issues : List Issue)
  /-- A fault blocks the package. -/
  | fault (f : Fault)
  /-- A failure blocks the package. -/
  | failure (f : Failure)
  /-- The structural validator ran. -/
  | outcome (o : Outcome)
  deriving DecidableEq, Repr

namespace Recording

/-- The rule that was checked. -/
def rule? : Recording → Option Rule
  | rule r _ => some r
  | _ => none

/-- The issues that were raised. -/
def issues : Recording → List Issue
  | rule _ is => is
  | _ => []

/-- What blocks the package. -/
def failures : Recording → List Failure
  | fault f => [.ofFault f]
  | failure f => [f]
  | _ => []

/-- What the structural validator said. -/
def outcome? : Recording → Option Outcome
  | outcome o => some o
  | _ => none

/-- The rules that were checked in a history, as often as they were. -/
def allRules (history : List Recording) : List Rule := history.filterMap rule?

/-- The issues that were raised in a history. -/
def allIssues (history : List Recording) : List Issue := history.flatMap issues

/-- What blocks the package after a history. -/
def allFailures (history : List Recording) : List Failure := history.flatMap failures

/-- What the structural validator said last in a history. -/
def lastOutcome? (history : List Recording) : Option Outcome :=
  (history.filterMap outcome?).getLast?

end Recording

open Recording (allRules allIssues allFailures lastOutcome?)

namespace Report

variable {r : Report} {history : List Recording}

/-- A report with something recorded in it. -/
def record (r : Report) : Recording → Report
  | .rule rule issues => r.recordRule rule issues
  | .fault f => r.recordFailure (.ofFault f)
  | .failure f => r.recordFailure f
  | .outcome o => r.recordOutcome o

/-- A report after a history of recordings. -/
def recordAll (r : Report) (history : List Recording) : Report := history.foldl record r

/-! ### One recording -/

theorem current_record (r : Report) (s : Recording) : (r.record s).Current := by
  cases s <;> exact current_refreshed _

theorem rules_record (r : Report) (s : Recording) :
    (r.record s).rules = s.rule?.elim r.rules (appendNew r.rules) := by
  cases s <;> rfl

theorem issues_record (r : Report) (s : Recording) :
    (r.record s).issues = r.issues ++ s.issues := by
  cases s with
  | rule rule issues => rfl
  | fault f => exact (List.append_nil _).symm
  | failure f => exact (List.append_nil _).symm
  | outcome o => exact (List.append_nil _).symm

theorem blocking_record (r : Report) (s : Recording) :
    (r.record s).blocking = r.blocking ++ s.failures := by
  cases s with
  | rule rule issues => exact (List.append_nil _).symm
  | fault f => rfl
  | failure f => rfl
  | outcome o => exact (List.append_nil _).symm

theorem structural_record (r : Report) (s : Recording) :
    (r.record s).structural = s.outcome?.or r.structural := by
  cases s <;> rfl

/-! ### A history -/

/-- A report that is up to date stays so. -/
theorem current_recordAll (hr : r.Current) (history : List Recording) :
    (r.recordAll history).Current := by
  induction history generalizing r with
  | nil => exact hr
  | cons s history ih => exact ih (current_record r s)

theorem rules_recordAll (r : Report) (history : List Recording) :
    (r.recordAll history).rules = (allRules history).foldl appendNew r.rules := by
  induction history generalizing r with
  | nil => rfl
  | cons s history ih =>
    rw [recordAll, List.foldl_cons, ← recordAll, ih, rules_record, allRules, allRules]
    cases hs : s.rule? with
    | none => rw [List.filterMap_cons_none hs, Option.elim_none]
    | some rule => rw [List.filterMap_cons_some hs, Option.elim_some, List.foldl_cons]

theorem issues_recordAll (r : Report) (history : List Recording) :
    (r.recordAll history).issues = r.issues ++ allIssues history := by
  induction history generalizing r with
  | nil => exact (List.append_nil _).symm
  | cons s history ih =>
    rw [recordAll, List.foldl_cons, ← recordAll, ih, issues_record, List.append_assoc, allIssues,
      allIssues, List.flatMap_cons]

theorem blocking_recordAll (r : Report) (history : List Recording) :
    (r.recordAll history).blocking = r.blocking ++ allFailures history := by
  induction history generalizing r with
  | nil => exact (List.append_nil _).symm
  | cons s history ih =>
    rw [recordAll, List.foldl_cons, ← recordAll, ih, blocking_record, List.append_assoc,
      allFailures, allFailures, List.flatMap_cons]

/-- Of several outcomes the last one stays. -/
theorem structural_recordAll (r : Report) (history : List Recording) :
    (r.recordAll history).structural = (lastOutcome? history).or r.structural := by
  induction history generalizing r with
  | nil => rfl
  | cons s history ih =>
    rw [recordAll, List.foldl_cons, ← recordAll, ih, structural_record, lastOutcome?, lastOutcome?,
      getLast?_filterMap_cons, Option.or_assoc]

/-! ### What the report says in the end -/

theorem isError_iff {i : Issue} : i.isError = true ↔ i.severity = .error := by
  rw [Issue.isError, decide_eq_true_eq]

/-- When a report that is up to date is valid. -/
theorem isValid_iff (hr : r.Current) : r.isValid = true ↔
    (∀ i ∈ r.issues, i.severity ≠ .error) ∧ r.blocking = [] ∧
      ∀ o, r.structural = some o → o.exitCode = 0 := by
  have houtcome : r.structural.all Outcome.isValid = true ↔
      ∀ o, r.structural = some o → o.exitCode = 0 := by
    rw [Option.all_eq_true]
    simp only [Outcome.isValid, decide_eq_true_eq]
  rw [isValid, hr, complies, Bool.and_eq_true, Bool.and_eq_true, Bool.not_eq_true',
    List.any_eq_false, List.isEmpty_iff, houtcome, and_assoc]
  simp only [isError_iff, ne_eq]

/-- Some rule has not passed when some issue is an error, whatever rule it names. -/
theorem exists_passed_eq_false_iff :
    (∃ rule, r.passed rule = false) ↔ ∃ i ∈ r.issues, i.severity = .error := by
  simp only [passed, Bool.not_eq_false', List.any_eq_true, issuesFor, List.mem_filter,
    decide_eq_true_eq, isError_iff]
  constructor
  · rintro ⟨rule, i, ⟨hi, -⟩, herror⟩
    exact ⟨i, hi, herror⟩
  · rintro ⟨i, hi, herror⟩
    exact ⟨i.rule, i, ⟨hi, rfl⟩, herror⟩

/-- A report says what a history says. -/
structure Reflects (r : Report) (history : List Recording) : Prop where
  /-- It is valid when no error was recorded, nothing blocks the package, and the outcome
  that was recorded last, if there is one, has exit code 0. -/
  isValid : r.isValid = true ↔ (∀ i ∈ allIssues history, i.severity ≠ .error) ∧
    allFailures history = [] ∧ ∀ o, lastOutcome? history = some o → o.exitCode = 0
  /-- No rule occurs twice. -/
  nodup_rules : r.rules.Nodup
  /-- The rules come in the order in which they were first recorded. -/
  rules : r.rules = (allRules history).eraseDups
  /-- The rules recorded are listed first, then those that only issues name, in the order
  in which they first do. -/
  listed : r.grouped.map Prod.fst = r.rules ++
    (((allIssues history).map Issue.rule).filter fun rule => !r.rules.contains rule).eraseDups
  /-- No rule is listed twice. -/
  nodup_listed : (r.grouped.map Prod.fst).Nodup
  /-- Under a rule stand the issues that name it, in the order in which they were recorded. -/
  under : ∀ x ∈ r.grouped, x.2 = r.issuesFor x.1 ∧
    x.2 = (allIssues history).filter fun i => i.rule = x.1
  /-- Every issue stands under some rule, as often as it was recorded. -/
  perm : (r.grouped.flatMap Prod.snd).Perm (allIssues history)
  /-- Some rule has not passed when some error was recorded. -/
  passed : (∃ rule, r.passed rule = false) ↔ ∃ i ∈ allIssues history, i.severity = .error

theorem rules_recordAll_start (source : String) (p : Package) (entry : Option String) :
    ((start source p entry).recordAll history).rules = (allRules history).eraseDups := by
  rw [rules_recordAll, ← foldl_appendNew_nil]
  rfl

theorem issues_recordAll_start (source : String) (p : Package) (entry : Option String) :
    ((start source p entry).recordAll history).issues = allIssues history :=
  issues_recordAll _ history

theorem isValid_recordAll_start (source : String) (p : Package) (entry : Option String) :
    ((start source p entry).recordAll history).isValid = true ↔
      (∀ i ∈ allIssues history, i.severity ≠ .error) ∧ allFailures history = [] ∧
        ∀ o, lastOutcome? history = some o → o.exitCode = 0 := by
  rw [isValid_iff (current_recordAll (current_start source p entry) history),
    issues_recordAll_start, blocking_recordAll, structural_recordAll]
  have hnone : (lastOutcome? history).or (start source p entry).structural =
      lastOutcome? history := Option.or_none
  rw [hnone]
  exact Iff.rfl

theorem reflects_start (source : String) (p : Package) (entry : Option String)
    (history : List Recording) : ((start source p entry).recordAll history).Reflects history := by
  set r := (start source p entry).recordAll history with hr
  have hissues : r.issues = allIssues history := issues_recordAll_start source p entry
  have hrules : r.rules = (allRules history).eraseDups := rules_recordAll_start source p entry
  have hnodup : r.rules.Nodup := hrules ▸ nodup_eraseDups _
  refine ⟨isValid_recordAll_start source p entry, hnodup, hrules, ?_, ?_, ?_, ?_, ?_⟩
  · rw [map_fst_grouped, listed_eq hnodup, hissues]
  · rw [map_fst_grouped]
    exact nodup_listed r
  · intro x hx
    rw [grouped_eq, listing, List.mem_map] at hx
    obtain ⟨rule, -, rfl⟩ := hx
    exact ⟨rfl, by rw [issuesFor, hissues]⟩
  · rw [← hissues]
    exact perm_grouped r
  · rw [← hissues]
    exact exists_passed_eq_false_iff

/-- **A report says what its history says**, whatever is recorded, how often and in which
order.  Its verdict stays the same when the history is reordered, as long as the outcome
that was recorded last stays the last. -/
theorem reflects_recordAll (source : String) (p : Package) (entry : Option String)
    (history : List Recording) :
    ((start source p entry).recordAll history).Reflects history ∧
      ∀ history' : List Recording, history'.Perm history →
        lastOutcome? history' = lastOutcome? history →
          ((start source p entry).recordAll history').isValid =
            ((start source p entry).recordAll history).isValid := by
  refine ⟨reflects_start source p entry history, ?_⟩
  intro history' hperm hlast
  have hissues : (allIssues history').Perm (allIssues history) := hperm.flatMap_right _
  have hfailures : (allFailures history').Perm (allFailures history) := hperm.flatMap_right _
  have hnone : allFailures history' = [] ↔ allFailures history = [] := by
    rw [← List.perm_nil, ← List.perm_nil]
    exact ⟨hfailures.symm.trans, hfailures.trans⟩
  rw [Bool.eq_iff_iff, isValid_recordAll_start, isValid_recordAll_start, hlast, hnone]
  simp only [hissues.mem_iff]

/-- A history in which the validator first refuses the document and then accepts it, a rule
is recorded twice, and one of its issues names another rule. -/
def retried : List Recording :=
  [ .outcome ⟨1, "", "refused"⟩
  , .rule .metadata [⟨.metadata, .hint, "no author"⟩, ⟨.toolElements, .hint, "no label"⟩]
  , .rule .metadata []
  , .outcome ⟨0, "accepted", ""⟩ ]

/-- The same recordings in another order. -/
def reordered : List Recording :=
  [ .rule .metadata []
  , .outcome ⟨1, "", "refused"⟩
  , .outcome ⟨0, "accepted", ""⟩
  , .rule .metadata [⟨.metadata, .hint, "no author"⟩, ⟨.toolElements, .hint, "no label"⟩] ]

theorem reflects_recordAll_retried :
    let r := start "-" ⟨"", ⟨.null, none, [], []⟩⟩ none
    reordered.Perm retried ∧ lastOutcome? reordered = lastOutcome? retried ∧
      (r.recordAll retried).Reflects retried ∧
      (r.recordAll reordered).isValid = (r.recordAll retried).isValid := by
  have hperm : reordered.Perm retried := by decide
  have hlast : lastOutcome? reordered = lastOutcome? retried := by decide
  obtain ⟨hreflects, hsame⟩ := reflects_recordAll "-" ⟨"", ⟨.null, none, [], []⟩⟩ none retried
  exact ⟨hperm, hlast, hreflects, hsame reordered hperm hlast⟩

end Report

/-! ### The history of a validation -/

namespace Package

variable {p : Package} {source : String} {entry : Option String}
  {result : Option (Except Fault Outcome)}

/-- What is recorded about a run of a structural validator, if there was one. -/
def structuralRecordings : Option (Except Fault Outcome) → List Recording
  | none => []
  | some (.ok o) => [.outcome o]
  | some (.error f) => [.fault f]

/-- What a validation records. -/
def recordings (p : Package) (entry : Option String) (result : Option (Except Fault Outcome)) :
    List Recording :=
  (Rule.all.map fun rule => .rule rule (rule.issues p entry)) ++
    ((Report.unsupportedFailures (p.select entry).unsupported).map .failure ++
      structuralRecordings result)

theorem validate_eq_recordAll (p : Package) (source : String) (entry : Option String)
    (result : Option (Except Fault Outcome)) : p.validate source entry result =
      (Report.start source p entry).recordAll (p.recordings entry result) := by
  rw [recordings, Report.recordAll, List.foldl_append, List.foldl_append, List.foldl_map, validate]
  show Report.recordStructural result ((Report.recordRules p entry
    (Report.start source p entry)).recordUnsupported p entry) = _
  rw [Report.recordUnsupported]
  cases (p.select entry).unsupported <;> rcases result with _ | f | o <;> rfl

end Package

end CwlCompliance
