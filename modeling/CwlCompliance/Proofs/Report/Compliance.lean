import CwlCompliance.Proofs.Package.Transform
import CwlCompliance.Proofs.Report.Verdict

/-!
# Compliance

Without a structural validator a validation succeeds exactly when the package is as
the profile wants it.  Metadata other than a version is never asked for by the verdict.

## Main definitions

* `Package.Compliant` — what a package must be like under an entry point, said without
  the checks.
* `Package.versionsOnly` — a package without the metadata that is optional.

## Main results

* `Package.compliant_versionsOnly` — compliance needs no optional metadata.
* `Package.isValid_validate_iff_compliant` — **the verdict is sound and complete.**
-/

namespace CwlCompliance

namespace Package

variable {p : Package} {source : String} {entry : Option String}

/-! ### What a package must be like -/

/-- What a package must be like under an entry point. -/
structure Compliant (p : Package) (entry : Option String) : Prop where
  /-- There is a workflow at the top. -/
  workflow : ∃ w ∈ p.processes, w.processClass = .workflow
  /-- There is a tool at the top. -/
  tool : ∃ t ∈ p.processes, t.processClass = .commandLineTool
  /-- The entry point, if there is one, is the local name of a workflow at the top. -/
  hasEntry : p.HasEntry entry
  /-- The tools in scope are as they must be. -/
  tools : ∀ t, p.ToolInScope entry t → GoodTool t
  /-- The workflows in scope are as they must be. -/
  workflows : ∀ w, p.WorkflowInScope entry w → GoodWorkflow w

theorem compliant_iff : p.Compliant entry ↔
    (∀ rule ∈ Rule.all, Harmless (rule.findings p (p.select entry))) ∧
      (p.select entry).unsupported = [] := by
  rw [forall_harmless_findings_iff, unsupported_eq_nil_iff, missing_select_eq_none_iff]
  simp only [mem_select_tools, mem_select_workflows]
  constructor
  · rintro ⟨hworkflow, htool, hentry, htools, hworkflows⟩
    have htools := fun t ht => goodTool_iff.mp (htools t ht)
    exact ⟨⟨⟨hworkflow, htool⟩, hentry, fun t ht => (htools t ht).1, hworkflows⟩,
      fun t ht => (htools t ht).2⟩
  · rintro ⟨⟨⟨hworkflow, htool⟩, hentry, hpresent, hworkflows⟩, hsupported⟩
    exact ⟨hworkflow, htool, hentry,
      fun t ht => goodTool_iff.mpr ⟨hpresent t ht, hsupported t ht⟩, hworkflows⟩

theorem isValid_validate_none_iff :
    (p.validate source entry none).isValid = true ↔ p.Compliant entry := by
  rw [isValid_validate_iff, compliant_iff]
  exact ⟨fun h => ⟨h.1, h.2.1⟩, fun h => ⟨h.1, h.2, fun _ hr => nomatch hr⟩⟩

end Package

/-! ### Optional metadata -/

/-- A process whose metadata is cut down to a version. -/
def CwlProcess.versionOnly (p : CwlProcess) : CwlProcess :=
  { p with provenance := p.provenance.filter fun x => x.1 = .version }

theorem keepsNames_versionOnly : KeepsNames CwlProcess.versionOnly id :=
  ⟨fun _ => rfl, fun _ => rfl⟩

theorem goodTool_transform_versionOnly {t : CwlProcess} :
    GoodTool (t.transform CwlProcess.versionOnly id) ↔ GoodTool t := by
  rw [CwlProcess.transform_eq]
  exact ⟨fun ⟨h1, h2, h3, h4, h5, h6⟩ => ⟨h1, h2, h3, h4, h5, h6⟩,
    fun ⟨h1, h2, h3, h4, h5, h6⟩ => ⟨h1, h2, h3, h4, h5, h6⟩⟩

theorem goodWorkflow_transform_versionOnly {w : CwlProcess} :
    GoodWorkflow (w.transform CwlProcess.versionOnly id) ↔ GoodWorkflow w := by
  have hversion : (∃ v, (ProvenanceField.version, v) ∈ w.versionOnly.provenance) ↔
      ∃ v, (ProvenanceField.version, v) ∈ w.provenance := by
    simp [CwlProcess.versionOnly]
  rw [CwlProcess.transform_eq]
  exact ⟨fun ⟨h1, h2, h3, h4, h5⟩ => ⟨h1, h2, h3, hversion.mp h4, h5⟩,
    fun ⟨h1, h2, h3, h4, h5⟩ => ⟨h1, h2, h3, hversion.mpr h4, h5⟩⟩

namespace Package

variable {p : Package} {entry : Option String}

/-- A package without the metadata that is optional, anywhere in it. -/
def versionsOnly (p : Package) : Package := p.transform CwlProcess.versionOnly id

/-- Compliance needs no optional metadata. -/
theorem compliant_versionsOnly : p.versionsOnly.Compliant entry ↔ p.Compliant entry := by
  have hkeep : ∀ q, (CwlProcess.versionOnly q).processClass = q.processClass := fun _ => rfl
  have hclass : ∀ c : ProcessClass, (∃ q ∈ p.versionsOnly.processes, q.processClass = c) ↔
      ∃ q ∈ p.processes, q.processClass = c := by
    intro c
    refine exists_mem_processes_transform fun q => ?_
    rw [CwlProcess.processClass_transform hkeep]
  have hentry : p.versionsOnly.HasEntry entry ↔ p.HasEntry entry :=
    hasEntry_transform keepsNames_versionOnly hkeep
  have htools : (∀ t, p.versionsOnly.ToolInScope entry t → GoodTool t) ↔
      ∀ t, p.ToolInScope entry t → GoodTool t := by
    simp only [versionsOnly, toolInScope_transform keepsNames_versionOnly hkeep,
      forall_exists_index, and_imp, forall_apply_eq_imp_iff₂, goodTool_transform_versionOnly]
  have hworkflows : (∀ w, p.versionsOnly.WorkflowInScope entry w → GoodWorkflow w) ↔
      ∀ w, p.WorkflowInScope entry w → GoodWorkflow w := by
    simp only [versionsOnly, workflowInScope_transform keepsNames_versionOnly hkeep,
      forall_exists_index, and_imp, forall_apply_eq_imp_iff₂, goodWorkflow_transform_versionOnly]
  constructor
  · rintro ⟨h1, h2, h3, h4, h5⟩
    exact ⟨(hclass _).mp h1, (hclass _).mp h2, hentry.mp h3, htools.mp h4, hworkflows.mp h5⟩
  · rintro ⟨h1, h2, h3, h4, h5⟩
    exact ⟨(hclass _).mpr h1, (hclass _).mpr h2, hentry.mpr h3, htools.mpr h4, hworkflows.mpr h5⟩

/-- **The verdict is sound and complete.**  Without a structural validator a report is
valid exactly when the package is as the profile wants it under the entry point, and
metadata that is optional makes no difference, wherever it is missing. -/
theorem isValid_validate_iff_compliant (p : Package) (source : String) (entry : Option String) :
    ((p.validate source entry none).isValid = true ↔ p.Compliant entry) ∧
      (p.versionsOnly.validate source entry none).isValid =
        (p.validate source entry none).isValid := by
  refine ⟨isValid_validate_none_iff, ?_⟩
  rw [Bool.eq_iff_iff, isValid_validate_none_iff, isValid_validate_none_iff,
    compliant_versionsOnly]

end Package

end CwlCompliance
