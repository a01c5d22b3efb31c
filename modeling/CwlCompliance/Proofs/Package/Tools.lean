import CwlCompliance.Proofs.Report.Compliance

/-!
# Where the tools of a package stand

The tools of a package are said in two ways.  The rule on the classes of a document
counts those at its top, the other rules and the search for unsupported tools go through
all of them, those declared in place included.  The two part ways in one kind of package:
one all of whose tools are declared in place.  Its tools are looked at one by one, and yet
it is refused for having none.

## Main definitions

* `noToolIssue` — the issue that a document has no tool.
* `Package.ToolsInPlaceOnly` — there are tools, all of them declared in place.

## Main results

* `Package.noToolIssue_mem_issues_iff` — the rule on classes looks at the top.
* `Package.tools_select_none_eq_nil_iff` — the selection looks everywhere.
* `Package.noToolIssue_agrees_iff` — **when the two agree.**
-/

namespace CwlCompliance

/-- The issue that a document has no tool. -/
def noToolIssue : Issue := ⟨.documentClasses, .error, "No CommandLineTool class defined"⟩

namespace Package

variable {p : Package} {entry : Option String}

/-- There are tools in the document, and each is declared in place by a step. -/
structure ToolsInPlaceOnly (p : Package) : Prop where
  /-- There is a tool somewhere. -/
  somewhere : ∃ a t, processAt p.processes a = some t ∧ t.processClass = .commandLineTool
  /-- There is none at the top. -/
  notAtTop : ∀ t ∈ p.processes, t.processClass ≠ .commandLineTool

/-- The rule on classes raises the issue when no tool stands at the top. -/
theorem noToolIssue_mem_issues_iff : noToolIssue ∈ Rule.documentClasses.issues p entry ↔
    ∀ t ∈ p.processes, t.processClass ≠ .commandLineTool := by
  have htools : p.tools.isEmpty = true ↔
      ∀ t ∈ p.processes, t.processClass ≠ .commandLineTool := by
    rw [List.isEmpty_iff, tools_eq_filter, List.filter_eq_nil_iff]
    simp only [CwlProcess.isTool_iff, ne_eq]
  -- the issue that there is no workflow reads otherwise
  have hworkflow : noToolIssue ≠ (Finding.noProcess .documentClasses .workflow).issue := by
    decide +kernel
  have htool : noToolIssue = (Finding.noProcess .documentClasses .commandLineTool).issue := by
    decide +kernel
  rw [← htools, Rule.issues, Rule.findings, classFindings, List.map_append, List.mem_append]
  cases p.workflows.isEmpty <;> cases p.tools.isEmpty <;> simp [hworkflow, ← htool]

/-- Without an entry point no tool is selected when none stands anywhere. -/
theorem tools_select_none_eq_nil_iff : (p.select none).tools = [] ↔
    ∀ a t, processAt p.processes a = some t → t.processClass ≠ .commandLineTool := by
  rw [List.eq_nil_iff_forall_not_mem]
  simp only [p.listed_tools_of_none.mem_iff]
  constructor
  · intro h a t ha htool
    exact h t ⟨a, ha, htool⟩
  · rintro h t ⟨a, ha, htool⟩
    exact h a t ha htool

theorem forall_top_of_tools_eq_nil (h : (p.select none).tools = []) :
    ∀ t ∈ p.processes, t.processClass ≠ .commandLineTool := by
  intro t ht
  obtain ⟨i, hi⟩ := List.getElem?_of_mem ht
  exact tools_select_none_eq_nil_iff.mp h [i] t ((processAt_top _ i).trans hi)

/-- **When the rule on classes and the selection agree about tools.**  The issue is raised
when no tool is selected, and otherwise in the packages whose tools are all declared in
place.  So one means the other in every package but these, under every entry point. -/
theorem noToolIssue_agrees_iff (p : Package) (entry : Option String) :
    (noToolIssue ∈ Rule.documentClasses.issues p entry ↔
      (p.select none).tools = [] ∨ p.ToolsInPlaceOnly) ∧
    ((noToolIssue ∈ Rule.documentClasses.issues p entry ↔ (p.select none).tools = []) ↔
      ¬p.ToolsInPlaceOnly) := by
  have hsplit : noToolIssue ∈ Rule.documentClasses.issues p entry ↔
      (p.select none).tools = [] ∨ p.ToolsInPlaceOnly := by
    rw [noToolIssue_mem_issues_iff]
    constructor
    · intro htop
      by_cases htools : (p.select none).tools = []
      · exact .inl htools
      · obtain ⟨t, ht⟩ := List.exists_mem_of_ne_nil _ htools
        obtain ⟨a, ha, htool⟩ := p.listed_tools_of_none.mem_iff.mp ht
        exact .inr ⟨⟨a, t, ha, htool⟩, htop⟩
    · rintro (htools | honly)
      · exact forall_top_of_tools_eq_nil htools
      · exact honly.notAtTop
  -- no package is of both kinds
  have hdisjoint : p.ToolsInPlaceOnly → (p.select none).tools ≠ [] := by
    rintro ⟨⟨a, t, ha, htool⟩, -⟩ htools
    exact tools_select_none_eq_nil_iff.mp htools a t ha htool
  refine ⟨hsplit, ?_⟩
  rw [hsplit]
  constructor
  · intro hiff honly
    exact hdisjoint honly (hiff.mp (.inr honly))
  · intro hnot
    exact or_iff_left hnot

/-- A workflow whose only tool is declared in place by its step. -/
def inPlaceText : String :=
  "class: Workflow\nid: main\nsteps:\n  s:\n    run:\n      class: CommandLineTool\n      id: t\n"

/-- The tool of this package is selected, and there is the issue that it has none. -/
theorem noToolIssue_with_tool : ∃ p, Package.ofText inPlaceText = .ok p ∧
    noToolIssue ∈ Rule.documentClasses.issues p none ∧
    (p.select none).tools.map CwlProcess.id = [some "t"] := by
  have hread : (Package.ofText inPlaceText).toOption.map (fun p => decide
      (noToolIssue ∈ Rule.documentClasses.issues p none ∧
        (p.select none).tools.map CwlProcess.id = [some "t"])) = some true := by decide +kernel
  obtain ⟨p, hp, htool⟩ := Option.map_eq_some_iff.mp hread
  exact ⟨p, Reading.toOption_eq_some.mp hp, of_decide_eq_true htool⟩

end Package

end CwlCompliance
