import CwlCompliance.Proofs.Report.RuleSection

/-!
# Rules are checked independently

Every rule is checked whatever else is found.  A registry holds one check for each rule, and all
that a check raises stands under its rule, so checking some rules in some order finds what
checking all of them finds under these rules.  A validation checks all rules before it looks
for what blocks the package, and what blocks the package changes nothing about the issues.

## Main definitions

* `Check`, `Registry`, `Registry.builtIn` — a check, and the checks that are there.
* `Registry.run`, `Registry.runRule` — all checks, and those of one rule.

## Main results

* `Registry.filter_run`, `Registry.run_eq_flatMap_runRule` — what is raised under one rule, and
  how all that is raised is made up of it.
* `Registry.perm_flatMap_runRule` — some rules, checked in any order.
* `Package.validate_checks_every_rule` — **what blocks a package leaves its issues alone.**
-/

namespace CwlCompliance

/-- A check: the rule that it is for, and what it raises.  All of that stands under the rule. -/
structure Check where
  /-- The rule. -/
  rule : Rule
  /-- What is raised about a package of which some processes are selected. -/
  issues : Package → Selection → List Issue
  /-- What is raised stands under the rule. -/
  rule_of_mem : ∀ p s, ∀ i ∈ issues p s, i.rule = rule

/-- The check of a rule. -/
def Check.ofRule (rule : Rule) : Check where
  rule := rule
  issues p s := (rule.findings p s).map Finding.issue
  rule_of_mem := by
    intro p s i hi
    obtain ⟨f, hf, rfl⟩ := List.mem_map.mp hi
    exact rule.rule_of_mem_findings hf

/-- Checks in order, one for each of their rules. -/
structure Registry where
  /-- The checks. -/
  checks : List Check
  /-- No two are for the same rule. -/
  nodup : (checks.map Check.rule).Nodup

namespace Registry

/-- The rules that there is a check for. -/
def rules (g : Registry) : List Rule := g.checks.map Check.rule

/-- What all checks raise about a package, given an entry point. -/
def run (g : Registry) (p : Package) (entry : Option String) : List Issue :=
  g.checks.flatMap fun c => c.issues p (p.select entry)

/-- What the checks of one rule raise. -/
def runRule (g : Registry) (rule : Rule) (p : Package) (entry : Option String) : List Issue :=
  (g.checks.filter fun c => c.rule = rule).flatMap fun c => c.issues p (p.select entry)

/-- The checks of all rules of the profile. -/
def builtIn : Registry where
  checks := Rule.all.map Check.ofRule
  nodup := by decide

variable {g : Registry} {p : Package} {entry : Option String}

/-! ### Any registry -/

/-- What stands under a rule, of all that is raised, is what the checks of the rule raise. -/
theorem filter_run (g : Registry) (rule : Rule) (p : Package) (entry : Option String) :
    (g.run p entry).filter (fun i => i.rule = rule) = g.runRule rule p entry := by
  rw [run, runRule]
  induction g.checks with
  | nil => rfl
  | cons c checks ih =>
    rw [List.flatMap_cons, List.filter_append, ih, List.filter_cons]
    -- a check raises nothing under another rule
    by_cases hc : c.rule = rule
    · have hall : (c.issues p (p.select entry)).filter (fun i => i.rule = rule) =
          c.issues p (p.select entry) := by
        refine List.filter_eq_self.mpr fun i hi => ?_
        rw [decide_eq_true_eq, c.rule_of_mem _ _ i hi, hc]
      rw [hall, if_pos (by simpa using hc), List.flatMap_cons]
    · have hnone : (c.issues p (p.select entry)).filter (fun i => i.rule = rule) = [] := by
        refine List.filter_eq_nil_iff.mpr fun i hi => ?_
        rw [decide_eq_true_eq, c.rule_of_mem _ _ i hi]
        exact hc
      rw [hnone, if_neg (by simpa using hc), List.nil_append]

theorem rule_of_mem_runRule {rule : Rule} {i : Issue} (hi : i ∈ g.runRule rule p entry) :
    i.rule = rule := by
  rw [← filter_run, List.mem_filter, decide_eq_true_eq] at hi
  exact hi.2

/-- All checks raise what those of one rule after the other do. -/
theorem run_eq_flatMap_runRule (g : Registry) (p : Package) (entry : Option String) :
    g.run p entry = g.rules.flatMap fun rule => g.runRule rule p entry := by
  rw [rules, List.flatMap_map, run]
  refine List.flatMap_congr fun c hc => ?_
  rw [runRule, filter_eq_singleton g.nodup hc, List.flatMap_singleton]

/-- Some rules, checked in any order, raise what all checks raise under these rules. -/
theorem perm_flatMap_runRule (g : Registry) (p : Package) (entry : Option String)
    {rules : List Rule} (h : rules.Nodup) :
    (rules.flatMap fun rule => g.runRule rule p entry).Perm
      ((g.run p entry).filter fun i => i.rule ∈ rules) := by
  have hrules : ∀ rule ∈ rules, ((g.run p entry).filter fun i => i.rule ∈ rules).filter
      (fun i => i.rule = rule) = g.runRule rule p entry := by
    intro rule hrule
    rw [← filter_run, List.filter_filter]
    refine List.filter_congr fun i _ => ?_
    by_cases hi : i.rule = rule
    · simp [hi, hrule]
    · simp [hi]
  rw [← List.flatMap_congr hrules]
  exact perm_flatMap_filter h fun i hi => by simpa using (List.mem_filter.mp hi).2

/-- Each of the rules then raises what it raises alone, and no other rule raises anything. -/
theorem filter_flatMap_runRule (g : Registry) (p : Package) (entry : Option String)
    {rules : List Rule} (h : rules.Nodup) (rule : Rule) :
    (rules.flatMap fun rule => g.runRule rule p entry).filter (fun i => i.rule = rule) =
      if rule ∈ rules then g.runRule rule p entry else [] := by
  split
  · next hrule => exact filter_flatMap_of_mem h (fun _ _ hi => rule_of_mem_runRule hi) hrule
  · next hrule =>
    refine List.filter_eq_nil_iff.mpr fun i hi => ?_
    obtain ⟨rule', hrule', hi⟩ := List.mem_flatMap.mp hi
    rw [decide_eq_true_eq, rule_of_mem_runRule hi]
    rintro rfl
    exact hrule hrule'

/-! ### The checks of the profile -/

theorem rules_builtIn : builtIn.rules = Rule.all := by decide

theorem run_builtIn (p : Package) (entry : Option String) :
    builtIn.run p entry = p.issues entry := by
  rw [run, builtIn, List.flatMap_map]
  rfl

theorem runRule_builtIn (rule : Rule) (p : Package) (entry : Option String) :
    builtIn.runRule rule p entry = rule.issues p entry := by
  rw [← filter_run, run_builtIn, Package.filter_issues]

end Registry

/-- **What blocks a package leaves its issues alone.**  Whatever the search for unsupported
tools and the structural validator come to, the report of a validation has all rules with all
that their checks raise.  Besides that it has one failure with the names of all unsupported
tools, if there are any, then the fault of a structural validator that gave no outcome, and the
outcome of one that did.  Each rule raises the same when it is checked alone, or with others in any
order. -/
theorem Package.validate_checks_every_rule (p : Package) (source : String) (entry : Option String)
    (result : Option (Except Fault Outcome)) :
    let r := p.validate source entry result
    let g := Registry.builtIn
    let unsupported := (p.select entry).unsupported
    r.rules.map Rule.name = ["req-7", "req-8", "req-9", "req-10", "req-11"] ∧
    r.issues = g.run p entry ∧
    r.blocking =
      (if unsupported = [] then []
        else [⟨.given "AP-UNSUPPORTED-001", unsupportedMessage, unsupported⟩]) ++
      (match result with
        | some (.error f) => [⟨f.code, f.message, []⟩]
        | _ => []) ∧
    (∀ o, r.structural = some o ↔ result = some (.ok o)) ∧
    (∀ rule, g.runRule rule p entry = rule.issues p entry ∧
      g.runRule rule p entry = (g.run p entry).filter fun i => i.rule = rule) ∧
    g.run p entry = r.rules.flatMap (fun rule => g.runRule rule p entry) ∧
    ∀ rules : List Rule, rules.Nodup →
      let found := rules.flatMap fun rule => g.runRule rule p entry
      found.Perm ((g.run p entry).filter fun i => i.rule ∈ rules) ∧
        ∀ rule, found.filter (fun i => i.rule = rule) =
          if rule ∈ rules then g.runRule rule p entry else [] := by
  intro r g unsupported
  have hrules : r.rules = Rule.all := rules_validate
  refine ⟨?_, ?_, ?_, ?_, ?_, ?_, ?_⟩
  · rw [hrules]
    decide
  · rw [Registry.run_builtIn]
    exact issues_validate
  · have hfailures : Report.unsupportedFailures unsupported =
        if unsupported = [] then []
        else [⟨.given "AP-UNSUPPORTED-001", unsupportedMessage, unsupported⟩] := by
      cases unsupported <;> rfl
    rw [← hfailures]
    exact blocking_validate
  · intro o
    have hstructural : r.structural = result.bind Except.toOption := structural_validate
    rw [hstructural]
    rcases result with _ | f | o' <;> simp [Except.toOption]
  · intro rule
    exact ⟨Registry.runRule_builtIn rule p entry, (g.filter_run rule p entry).symm⟩
  · rw [hrules, ← Registry.rules_builtIn]
    exact g.run_eq_flatMap_runRule p entry
  · exact fun rules h => ⟨g.perm_flatMap_runRule p entry h, g.filter_flatMap_runRule p entry h⟩

/-- A package with nothing but a tool that sets the output directory of its container. -/
def Package.redirected : Package where
  text := ""
  document :=
    { value := .null
      cwlVersion := none
      namespaces := []
      processes :=
        [⟨.commandLineTool, some "#tool", none, none, none,
          some [.docker { outputDirectory := some "/out" }], none, none, [], []⟩] }

theorem Package.validate_checks_every_rule_redirected :
    let f := (StructuralError.notLaunched "cwltool" "not found").fault
    let r := redirected.validate "-" none (some (.error f))
    let rules := [Rule.toolElements, .documentClasses]
    rules.Nodup ∧
      r.blocking = [⟨.given "AP-UNSUPPORTED-001", unsupportedMessage, ["CommandLineTool 'tool'"]⟩,
        ⟨f.code, f.message, []⟩] ∧
      r.structural = none ∧ r.issues ≠ [] ∧
      (rules.flatMap fun rule => Registry.builtIn.runRule rule redirected none).Perm
        ((Registry.builtIn.run redirected none).filter fun i => i.rule ∈ rules) := by
  intro f r rules
  have hnodup : rules.Nodup := by decide
  obtain ⟨-, hissues, hblocking, -, -, -, hany⟩ :=
    validate_checks_every_rule redirected "-" none (some (.error f))
  have hnames : (redirected.select none).unsupported = ["CommandLineTool 'tool'"] := by
    decide +kernel
  refine ⟨hnodup, ?_, rfl, ?_, (hany rules hnodup).1⟩
  · rw [hblocking, hnames]
    rfl
  · rw [hissues, Registry.run_builtIn]
    decide +kernel

end CwlCompliance
