import CwlCompliance.Proofs.Report.Compliance
import Mathlib.Data.List.Flatten

/-!
# An entry point only removes findings

The workflow and the tools that an entry point selects are among those that are looked at
without one, in the same order.  Findings name a process by its number only where it has
no local name, so with an entry point nothing is found that is not found without it, and
a package that complies as a whole complies under every entry point that it has.

## Main results

* `Package.tools_select_sublist`, `Package.workflows_select_sublist` — what an entry point
  selects is selected without one.
* `sublist_eachFindings`, `Selection.unsupported_sublist` — what is found about fewer
  processes.
* `Package.Compliant.narrow` — compliance goes over to an entry point.
* `Package.findings_sublist_of_entry` — **an entry point only removes findings.**
-/

namespace CwlCompliance

/-! ### Selecting less -/

namespace Package

variable {p : Package} {name : String}

theorem tools_select_sublist (h : ∃ w ∈ p.processes, IsEntry name w) :
    (p.select (some name)).tools.Sublist (p.select none).tools := by
  obtain ⟨i, hi⟩ := exists_isFirst.mpr h
  obtain ⟨w, hw, -⟩ := hi.1
  rw [select_of_isFirst hi hw]
  exact CallGraph.toolsFrom_sublist_tools _ _

theorem workflows_select_sublist (h : ∃ w ∈ p.processes, IsEntry name w) :
    (p.select (some name)).workflows.Sublist (p.select none).workflows := by
  obtain ⟨i, hi⟩ := exists_isFirst.mpr h
  obtain ⟨w, hw, hentry⟩ := hi.1
  rw [select_of_isFirst hi hw]
  have hmem : w ∈ p.workflows := by
    rw [workflows_eq_filter, List.mem_filter, CwlProcess.isWorkflow_iff]
    exact ⟨List.mem_of_getElem? hw, hentry.1⟩
  exact List.singleton_sublist.mpr hmem

/-- The workflow that an entry point selects has its name. -/
theorem localId_of_mem_select_workflows {w : CwlProcess}
    (hw : w ∈ (p.select (some name)).workflows) : w.localId = some name := by
  obtain ⟨-, i, hi, hscope⟩ := mem_select_workflows.mp hw
  obtain ⟨⟨v, hv, hentry⟩, -⟩ := hscope name rfl
  rw [hi, Option.some.injEq] at hv
  exact hv ▸ hentry.2

end Package

/-! ### Names and numbers -/

/-- A process has a local name that is not empty. -/
def CwlProcess.Named (p : CwlProcess) : Prop := ∃ id, p.localId = some id ∧ id ≠ ""

instance (p : CwlProcess) : Decidable p.Named :=
  inferInstanceAs (Decidable (∃ id ∈ p.localId, id ≠ ""))

theorem CwlProcess.display_eq_of_named {p : CwlProcess} (h : p.Named) (m n : ℕ) :
    p.display m = p.display n := by
  obtain ⟨id, hid, hne⟩ := h
  have hproper : p.properId = some id := by
    rw [properId, hid, Option.filter_some, if_pos (by simpa using hne)]
  rw [display, display, hproper]

/-! ### Finding less -/

variable {ps ps' : List CwlProcess}

/-- What is found about fewer processes, if it does not depend on their numbers. -/
theorem sublist_eachFindings {find : ℕ → CwlProcess → List Finding} (h : ps'.Sublist ps)
    (hfind : ∀ q ∈ ps', ∀ m n, find m q = find n q) :
    (eachFindings find ps').Sublist (eachFindings find ps) :=
  sublist_flatMap_zipIdx h hfind 1 1

/-- The tools among fewer ones that are not supported. -/
theorem Selection.unsupported_sublist {s s' : Selection} (h : s'.tools.Sublist s.tools)
    (hnamed : ∀ t ∈ s'.tools, t.Named) : s'.unsupported.Sublist s.unsupported := by
  rw [unsupported_eq_flatMap, unsupported_eq_flatMap]
  refine sublist_flatMap_zipIdx h (fun t ht m n => ?_) 1 1
  dsimp only
  rw [CwlProcess.display_eq_of_named (hnamed t ht) m n]

namespace Package

variable {p : Package} {name : String}

/-- What a rule finds with an entry point it finds without one. -/
theorem findings_sublist (h : ∃ w ∈ p.processes, IsEntry name w) (hname : name ≠ "")
    (htools : ∀ t ∈ (p.select (some name)).tools, t.Named) (rule : Rule) :
    (rule.findings p (p.select (some name))).Sublist (rule.findings p (p.select none)) := by
  have hfound : ∀ found, scopedFindings rule (p.select (some name)) found = found := by
    intro found
    have hentry : p.HasEntry (some name) := fun name' hname' => by
      rw [Option.some.injEq] at hname'
      exact hname' ▸ h
    rw [scopedFindings, missing_select_eq_none_iff.mpr hentry]
  have hnone : ∀ found, scopedFindings rule (p.select none) found = found := fun _ => rfl
  have hworkflows : ∀ w ∈ (p.select (some name)).workflows, ∀ m n, w.display m = w.display n := by
    intro w hw
    exact CwlProcess.display_eq_of_named ⟨name, localId_of_mem_select_workflows hw, hname⟩
  cases rule with
  | documentClasses => exact .refl _
  | toolElements =>
    rw [Rule.findings, Rule.findings, hfound, hnone]
    refine sublist_eachFindings (tools_select_sublist h) fun t ht m n => ?_
    rw [toolFindings, toolFindings, CwlProcess.display_eq_of_named (htools t ht) m n]
  | workflowElements =>
    rw [Rule.findings, Rule.findings, hfound, hnone]
    refine sublist_eachFindings (workflows_select_sublist h) fun w hw m n => ?_
    rw [workflowFindings, workflowFindings, hworkflows w hw m n]
  | inputElements =>
    rw [Rule.findings, Rule.findings, hfound, hnone]
    refine sublist_eachFindings (workflows_select_sublist h) fun w hw m n => ?_
    rw [workflowInputFindings, workflowInputFindings, hworkflows w hw m n]
  | metadata =>
    rw [Rule.findings, Rule.findings, hfound, hnone]
    refine sublist_eachFindings (workflows_select_sublist h) fun w hw m n => ?_
    rw [metadataFindings, metadataFindings, hworkflows w hw m n]

theorem issues_sublist (h : ∃ w ∈ p.processes, IsEntry name w) (hname : name ≠ "")
    (htools : ∀ t ∈ (p.select (some name)).tools, t.Named) :
    (p.issues (some name)).Sublist (p.issues none) :=
  List.Sublist.flatMap_right _ fun rule _ => (findings_sublist h hname htools rule).map _

/-! ### Compliance -/

/-- A package that complies as a whole complies under every entry point that it has. -/
theorem Compliant.narrow (hp : p.Compliant none) (h : ∃ w ∈ p.processes, IsEntry name w) :
    p.Compliant (some name) where
  workflow := hp.workflow
  tool := hp.tool
  hasEntry := fun name' hname => by
    rw [Option.some.injEq] at hname
    exact hname ▸ h
  tools := fun t ⟨htool, a, ha, _⟩ => hp.tools t ⟨htool, a, ha, fun _ hnone => nomatch hnone⟩
  workflows := fun w ⟨hworkflow, i, hi, _⟩ =>
    hp.workflows w ⟨hworkflow, i, hi, fun _ hnone => nomatch hnone⟩

/-- **An entry point only removes findings.**  If the tools that it selects have local names,
the issues under it are among those without it, in their order, and so are the unsupported
tools.  Whatever the tools are called, a package that is valid as a whole is valid under
every entry point that it has, with the same result of the structural validator if one was
run. -/
theorem findings_sublist_of_entry (p : Package) (name : String)
    (h : ∃ w ∈ p.processes, w.processClass = .workflow ∧ w.localId = some name) :
    (name ≠ "" →
      (∀ t ∈ (p.select (some name)).tools, ∃ id, t.localId = some id ∧ id ≠ "") →
        (p.issues (some name)).Sublist (p.issues none) ∧
          (p.select (some name)).unsupported.Sublist (p.select none).unsupported) ∧
    ∀ source source' result, (p.validate source none result).isValid = true →
      (p.validate source' (some name) result).isValid = true := by
  constructor
  · intro hname htools
    exact ⟨issues_sublist h hname htools,
      Selection.unsupported_sublist (tools_select_sublist h) htools⟩
  · intro source source' result hvalid
    rw [isValid_validate_iff, ← and_assoc, ← compliant_iff] at hvalid ⊢
    exact ⟨hvalid.1.narrow h, hvalid.2⟩

/-- A process with all that is asked for, but of its metadata only the version. -/
def described (c : ProcessClass) (id : String) (steps : List Step) : CwlProcess :=
  ⟨c, some id, some "title", some "abstract", some [], some [.docker { pull := some "image" }],
    none, some ["run"], steps, [(.version, .string "1.0")]⟩

/-- Two workflows, each with a tool of its own. -/
def twofold : Package where
  text := ""
  document :=
    { value := .null
      cwlVersion := none
      namespaces := []
      processes :=
        [ described .workflow "#other" [⟨none, .inline (described .commandLineTool "#inner" [])⟩]
        , described .workflow "#main" [⟨none, .reference "#tool"⟩]
        , described .commandLineTool "#tool" [] ] }

theorem findings_sublist_of_entry_twofold :
    (twofold.issues (some "main")).Sublist (twofold.issues none) ∧
      (twofold.select (some "main")).unsupported.Sublist (twofold.select none).unsupported ∧
      (twofold.issues (some "main")).length < (twofold.issues none).length ∧
      (twofold.validate "-" (some "main") none).isValid = true := by
  have hentry : ∃ w ∈ twofold.processes,
      w.processClass = .workflow ∧ w.localId = some "main" := by
    refine ⟨described .workflow "#main" [⟨none, .reference "#tool"⟩], ?_, rfl, by decide +kernel⟩
    exact List.mem_cons_of_mem _ List.mem_cons_self
  have hids : (twofold.select (some "main")).tools.map CwlProcess.localId = [some "tool"] := by
    decide +kernel
  have hnamed : ∀ t ∈ (twofold.select (some "main")).tools,
      ∃ id, t.localId = some id ∧ id ≠ "" := by
    intro t ht
    have hid : t.localId ∈ [some "tool"] := hids ▸ List.mem_map_of_mem ht
    exact ⟨"tool", List.mem_singleton.mp hid, by decide⟩
  have hvalid : (twofold.validate "-" none none).isValid = true := by decide +kernel
  obtain ⟨hless, hkept⟩ := findings_sublist_of_entry twofold "main" hentry
  obtain ⟨hissues, hunsupported⟩ := hless (by decide) hnamed
  exact ⟨hissues, hunsupported, by decide +kernel, hkept "-" "-" none hvalid⟩

end Package

end CwlCompliance
