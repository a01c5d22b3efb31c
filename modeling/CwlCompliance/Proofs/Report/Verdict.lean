import CwlCompliance.Proofs.Checks.Finding
import CwlCompliance.Report.Validation

/-!
# The verdict of a validation

A report keeps its verdict up to date with everything that is recorded, so what a
validation says in the end depends only on what was recorded: the issues of the rules,
the unsupported tools, and what came of the structural validator.

## Main definitions

* `Report.Current` — the verdict is what the report calls for.

## Main results

* `Package.current_validate`, `Package.issues_validate`, `Package.blocking_validate`,
  `Package.structural_validate` — the report of a validation.
* `Package.isValid_validate_iff` — what makes a validation succeed.
-/

namespace CwlCompliance

/-! ### Keeping the verdict -/

namespace Report

variable {r : Report} {rule : Rule} {p : Package} {entry : Option String}

/-- The verdict is what the report calls for. -/
def Current (r : Report) : Prop := r.valid = r.complies

theorem current_start (source : String) (p : Package) (entry : Option String) :
    (start source p entry).Current := rfl

theorem current_refreshed (r : Report) : r.refreshed.Current := rfl

theorem Current.recordRules (h : r.Current) : (r.recordRules p entry).Current := by
  -- by induction over the rules; each of them leaves a report that is up to date
  have hfold : ∀ (rules : List Rule) (r : Report), r.Current →
      (rules.foldl (fun r rule => r.recordRule rule (rule.issues p entry)) r).Current := by
    intro rules
    induction rules with
    | nil => exact fun _ h => h
    | cons rule rules ih => exact fun r _ => ih _ (current_refreshed _)
  exact hfold Rule.all r h

theorem Current.recordUnsupported (h : r.Current) : (r.recordUnsupported p entry).Current := by
  rw [Report.recordUnsupported]
  cases (p.select entry).unsupported with
  | nil => exact h
  | cons name names => exact current_refreshed _

theorem Current.recordStructural {result : Option (Except Fault Outcome)} (h : r.Current) :
    (r.recordStructural result).Current := by
  match result with
  | none => exact h
  | some (.ok o) => exact current_refreshed _
  | some (.error f) => exact current_refreshed _

/-! ### What is recorded -/

theorem foldl_recordRule {p : Package} {entry : Option String} (rules : List Rule) (r : Report) :
    let r' := rules.foldl (fun r rule => r.recordRule rule (rule.issues p entry)) r
    r'.issues = r.issues ++ rules.flatMap (fun rule => rule.issues p entry) ∧
      r'.blocking = r.blocking ∧ r'.structural = r.structural := by
  induction rules generalizing r with
  | nil => simp
  | cons rule rules ih =>
    obtain ⟨hissues, hblocking, hstructural⟩ := ih (r.recordRule rule (rule.issues p entry))
    refine ⟨?_, hblocking, hstructural⟩
    rw [List.foldl_cons, hissues, List.flatMap_cons, ← List.append_assoc]
    rfl

theorem issues_recordRules : (r.recordRules p entry).issues = r.issues ++ p.issues entry :=
  (foldl_recordRule Rule.all r).1

theorem blocking_recordRules : (r.recordRules p entry).blocking = r.blocking :=
  (foldl_recordRule Rule.all r).2.1

theorem structural_recordRules : (r.recordRules p entry).structural = r.structural :=
  (foldl_recordRule Rule.all r).2.2

theorem issues_recordUnsupported : (r.recordUnsupported p entry).issues = r.issues := by
  rw [recordUnsupported]
  cases (p.select entry).unsupported <;> rfl

theorem structural_recordUnsupported :
    (r.recordUnsupported p entry).structural = r.structural := by
  rw [recordUnsupported]
  cases (p.select entry).unsupported <;> rfl

/-- What blocks a package because its tools with these names are unsupported. -/
def unsupportedFailures : List String → List Failure
  | [] => []
  | names => [.unsupported names]

theorem unsupportedFailures_eq_nil_iff {names : List String} :
    unsupportedFailures names = [] ↔ names = [] := by
  cases names <;> simp [unsupportedFailures]

theorem blocking_recordUnsupported : (r.recordUnsupported p entry).blocking =
    r.blocking ++ unsupportedFailures (p.select entry).unsupported := by
  rw [recordUnsupported]
  cases (p.select entry).unsupported with
  | nil => exact (List.append_nil _).symm
  | cons name names => rfl

end Report

/-- A rule raises no error when its findings hold none. -/
theorem Rule.any_isError_issues_eq_false_iff {rule : Rule} {p : Package} {entry : Option String} :
    (rule.issues p entry).any Issue.isError = false ↔
      Harmless (rule.findings p (p.select entry)) := by
  rw [List.any_eq_false, Rule.issues, List.forall_mem_map]
  refine forall₂_congr fun f _ => ?_
  cases f <;> simp [Issue.isError, Finding.issue, Finding.severity]

namespace Package

variable {p : Package} {source : String} {entry : Option String}
  {result : Option (Except Fault Outcome)}

theorem current_validate : (p.validate source entry result).Current :=
  (Report.current_start source p entry).recordRules.recordUnsupported.recordStructural

theorem issues_validate : (p.validate source entry result).issues = p.issues entry := by
  have hbefore : (((Report.start source p entry).recordRules p entry).recordUnsupported
      p entry).issues = p.issues entry := by
    rw [Report.issues_recordUnsupported, Report.issues_recordRules]
    rfl
  -- what came of the structural validator is no issue
  match result with
  | none => exact hbefore
  | some (.ok o) => exact hbefore
  | some (.error f) => exact hbefore

/-- What blocks a package besides its tools: that its structural validator did not run. -/
theorem blocking_validate : (p.validate source entry result).blocking =
    Report.unsupportedFailures (p.select entry).unsupported ++
      match result with
      | some (.error f) => [.ofFault f]
      | _ => [] := by
  have hbefore : (((Report.start source p entry).recordRules p entry).recordUnsupported
      p entry).blocking = Report.unsupportedFailures (p.select entry).unsupported := by
    rw [Report.blocking_recordUnsupported, Report.blocking_recordRules]
    rfl
  match result with
  | none => exact hbefore.trans (List.append_nil _).symm
  | some (.ok o) => exact hbefore.trans (List.append_nil _).symm
  | some (.error f) => exact congrArg (· ++ [Failure.ofFault f]) hbefore

theorem structural_validate : (p.validate source entry result).structural =
    result.bind Except.toOption := by
  have hbefore : (((Report.start source p entry).recordRules p entry).recordUnsupported
      p entry).structural = none := by
    rw [Report.structural_recordUnsupported, Report.structural_recordRules]
    rfl
  match result with
  | none => exact hbefore
  | some (.ok o) => rfl
  | some (.error f) => exact hbefore

/-- The verdict depends on the issues, the unsupported tools and what came of the structural
validator alone. -/
theorem isValid_validate_congr {p' : Package} {source' : String}
    (hissues : p'.issues entry = p.issues entry)
    (hunsupported : (p'.select entry).unsupported = (p.select entry).unsupported) :
    (p'.validate source' entry result).isValid = (p.validate source entry result).isValid := by
  have hissues' : (p'.validate source' entry result).issues =
      (p.validate source entry result).issues := by
    rw [issues_validate, issues_validate, hissues]
  have hblocking : (p'.validate source' entry result).blocking =
      (p.validate source entry result).blocking := by
    rw [blocking_validate, blocking_validate, hunsupported]
  have hstructural : (p'.validate source' entry result).structural =
      (p.validate source entry result).structural := by
    rw [structural_validate, structural_validate]
  rw [Report.isValid, Report.isValid, current_validate, current_validate, Report.complies,
    Report.complies, hissues', hblocking, hstructural]

/-- A validation succeeds when no rule finds an error, no tool is unsupported, and the
structural validator, if it ran, accepted the document. -/
theorem isValid_validate_iff : (p.validate source entry result).isValid = true ↔
    (∀ rule ∈ Rule.all, Harmless (rule.findings p (p.select entry))) ∧
      (p.select entry).unsupported = [] ∧
      ∀ r, result = some r → ∃ o, r = .ok o ∧ o.exitCode = 0 := by
  have hissues : (p.issues entry).any Issue.isError = false ↔
      ∀ rule ∈ Rule.all, Harmless (rule.findings p (p.select entry)) := by
    rw [Package.issues, List.any_flatMap, List.any_eq_false]
    simp only [Bool.not_eq_true, Rule.any_isError_issues_eq_false_iff]
  have hstructural : (result.bind Except.toOption).all Outcome.isValid = true ∧
      (match result with
        | some (.error f) => [Failure.ofFault f]
        | _ => []) = [] ↔ ∀ r, result = some r → ∃ o, r = .ok o ∧ o.exitCode = 0 := by
    match result with
    | none => simp
    | some (.ok o) => simp [Except.toOption, Outcome.isValid]
    | some (.error f) => simp [Except.toOption]
  rw [Report.isValid, current_validate, Report.complies, issues_validate, blocking_validate,
    structural_validate, Bool.and_eq_true, Bool.and_eq_true, Bool.not_eq_true', hissues,
    List.isEmpty_iff, List.append_eq_nil_iff, Report.unsupportedFailures_eq_nil_iff, ← hstructural]
  constructor
  · rintro ⟨⟨hrules, hnames, hblocking⟩, houtcome⟩
    exact ⟨hrules, hnames, houtcome, hblocking⟩
  · rintro ⟨hrules, hnames, houtcome, hblocking⟩
    exact ⟨⟨hrules, hnames, hblocking⟩, houtcome⟩

end Package

end CwlCompliance
