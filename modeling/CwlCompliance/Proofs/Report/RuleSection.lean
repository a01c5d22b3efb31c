import CwlCompliance.Proofs.Report.History
import CwlCompliance.Report.Text

/-!
# The rules in the report of a validation

A validation puts the issues of all rules into one report, and the report sorts them by
rule again.  Every rule raises its issues under its own name, so what the report lists
under a rule is what the rule raised.

## Main definitions

* `Rule.passes`, `Rule.listing` — the verdict on a rule, and the rule with its issues, by
  what it raises alone.

## Main results

* `Package.grouped_validate` — the report of a validation lists what each rule raised.
* `Package.ruleSection_validate` — **the rule section is the listing of one rule after the
  other.**
* `Package.isValid_validate_none_iff_passes` — the verdict is that of the rules, and of
  the search for what is not supported.
-/

namespace CwlCompliance

namespace Rule

theorem nodup_all : all.Nodup := by decide

theorem mem_all (rule : Rule) : rule ∈ all := by cases rule <;> decide

/-- Whether a rule raises no error. -/
def passes (rule : Rule) (p : Package) (entry : Option String) : Bool :=
  !(rule.issues p entry).any Issue.isError

/-- A rule with the issues that it raises. -/
def listing (rule : Rule) (p : Package) (entry : Option String) : String :=
  ruleListing (rule.passes p entry) rule (rule.issues p entry)

/-- A rule raises issues under its own name. -/
theorem rule_of_mem_issues {rule : Rule} {p : Package} {entry : Option String} {i : Issue}
    (hi : i ∈ rule.issues p entry) : i.rule = rule := by
  obtain ⟨f, hf, rfl⟩ := List.mem_map.mp hi
  exact rule_of_mem_findings hf

end Rule

namespace Package

variable {p : Package} {source : String} {entry : Option String}
  {result : Option (Except Fault Outcome)}

/-- Among the issues of all rules those of one rule are found again. -/
theorem filter_issues (p : Package) (entry : Option String) (rule : Rule) :
    (p.issues entry).filter (fun i => i.rule = rule) = rule.issues p entry :=
  filter_flatMap_of_mem Rule.nodup_all (fun _ _ hi => Rule.rule_of_mem_issues hi) rule.mem_all

theorem rules_validate : (p.validate source entry result).rules = Rule.all := by
  have hnone : (structuralRecordings result).filterMap Recording.rule? = [] := by
    match result with
    | none => rfl
    | some (.ok _) => rfl
    | some (.error _) => rfl
  have hrules : Recording.allRules (p.recordings entry result) = Rule.all := by
    rw [Recording.allRules, recordings, List.filterMap_append, List.filterMap_append, hnone,
      List.filterMap_map, List.filterMap_map]
    simp [Function.comp_def, Recording.rule?]
  rw [validate_eq_recordAll, Report.rules_recordAll_start, hrules,
    eraseDups_eq_self Rule.nodup_all]

theorem issuesFor_validate (rule : Rule) :
    (p.validate source entry result).issuesFor rule = rule.issues p entry := by
  rw [Report.issuesFor, issues_validate, filter_issues]

theorem passed_validate (rule : Rule) :
    (p.validate source entry result).passed rule = rule.passes p entry := by
  rw [Report.passed, issuesFor_validate, Rule.passes]

theorem grouped_validate : (p.validate source entry result).grouped =
    CwlCompliance.listing Rule.all fun rule => rule.issues p entry := by
  -- every rule is recorded, so no rule is left that only issues name
  have hnodup : (p.validate source entry result).rules.Nodup := rules_validate ▸ Rule.nodup_all
  have hlisted : (p.validate source entry result).listed = Rule.all := by
    rw [Report.listed_eq hnodup, rules_validate, List.filter_eq_nil_iff.mpr, List.eraseDups_nil,
      List.append_nil]
    intro rule _
    simp [rule.mem_all]
  rw [Report.grouped_eq, hlisted]
  exact listing_congr fun rule _ => issuesFor_validate rule

/-- **The rule section** of the report of a validation is the listing of one rule after the
other. -/
theorem ruleSection_validate : (p.validate source entry result).ruleSection =
    String.join (Rule.all.map fun rule => rule.listing p entry) := by
  rw [Report.ruleSection, grouped_validate, CwlCompliance.listing, List.map_map]
  congr 1
  refine List.map_congr_left fun rule _ => ?_
  show ruleListing _ rule _ = rule.listing p entry
  rw [passed_validate, Rule.listing]

/-- Without a structural validator a validation succeeds when every rule passes and no tool
is unsupported. -/
theorem isValid_validate_none_iff_passes : (p.validate source entry none).isValid = true ↔
    (∀ rule ∈ Rule.all, rule.passes p entry = true) ∧ (p.select entry).unsupported = [] := by
  have hpasses : ∀ rule : Rule, rule.passes p entry = true ↔
      Harmless (rule.findings p (p.select entry)) := by
    intro rule
    rw [Rule.passes, Bool.not_eq_true', Rule.any_isError_issues_eq_false_iff]
  rw [isValid_validate_iff]
  simp only [hpasses]
  exact ⟨fun h => ⟨h.1, h.2.1⟩, fun h => ⟨h.1, h.2, fun _ hr => nomatch hr⟩⟩

end Package

end CwlCompliance
