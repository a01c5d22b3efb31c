import CwlCompliance.Proofs.Document.Enrichment
import CwlCompliance.Proofs.Package.Transform

/-!
# Packages with more metadata

Only one of the rules asks for metadata.  If two packages declare the same processes, and in
the second each has the same or more metadata, the other rules raise the same issues about
both, and this rule raises about the second some of those that it raises about the first.

## Main definitions

* `Package.plain` — a package without any metadata.

## Main results

* `Package.issues_eq_of_enriched` — what the other rules raise.
* `Package.metadata_issues_sublist` — **more metadata, fewer issues.**
-/

namespace CwlCompliance

/-! ### Without metadata -/

/-- The metadata of a process has no part in its name or in the names in its steps. -/
theorem keepsNames_withMetadata (φ : Provenance → Provenance) :
    KeepsNames (CwlProcess.withMetadata φ) fun locator => locator :=
  ⟨fun _ => rfl, fun _ => rfl⟩

theorem CwlProcess.Enriched.display_eq {w w' : CwlProcess} (h : w.Enriched w') (n : ℕ) :
    w'.display n = w.display n := by
  rw [display, display, properId, properId, localId, localId, h.plain.id, h.plain.processClass]

/-- With more metadata less of it is missing. -/
theorem CwlProcess.Enriched.metadataFindings_sublist {w w' : CwlProcess} (h : w.Enriched w')
    (n : ℕ) : (metadataFindings n w').Sublist (metadataFindings n w) := by
  rw [metadataFindings, metadataFindings, h.display_eq]
  refine (List.monotone_filter_right _ fun f hf => ?_).map _
  rw [Bool.not_eq_true', ← Bool.not_eq_true] at hf ⊢
  exact fun hkept => hf (h.kept f hkept)

namespace Package

variable {p p' : Package}

/-- A package without any metadata. -/
def plain (p : Package) : Package :=
  p.transform (CwlProcess.withMetadata fun _ => []) fun locator => locator

/-- Every rule but one raises the same issues about a package without its metadata. -/
theorem issues_plain {rule : Rule} (h : rule ≠ .metadata) (p : Package) (entry : Option String) :
    rule.issues p.plain entry = rule.issues p entry := by
  refine issues_transform (keepsNames_withMetadata _) (fun _ => rfl) ?_ p entry
  intro find hfind n q
  rw [CwlProcess.transform_eq, CwlProcess.transformSteps_eq_map]
  cases rule with
  | documentClasses => exact nomatch hfind
  | metadata => exact absurd rfl h
  | toolElements =>
    obtain rfl := Option.some.inj hfind
    rfl
  | workflowElements =>
    obtain rfl := Option.some.inj hfind
    rfl
  | inputElements =>
    obtain rfl := Option.some.inj hfind
    rfl

/-! ### With more metadata -/

section Enriched

variable (h : List.Forall₂ CwlProcess.Enriched p.processes p'.processes)
include h

theorem processes_plain_eq : p.plain.processes = p'.plain.processes := by
  rw [plain, plain, processes_transform, processes_transform, ← List.forall₂_eq_eq_eq,
    List.forall₂_map_left_iff, List.forall₂_map_right_iff]
  exact h.imp fun w w' hw => hw.plain

/-- The other rules raise the same issues. -/
theorem issues_eq_of_enriched {rule : Rule} (hrule : rule ≠ .metadata) (entry : Option String) :
    rule.issues p' entry = rule.issues p entry := by
  rw [← issues_plain hrule p, ← issues_plain hrule p', Rule.issues_congr (processes_plain_eq h)]

/-- A name means the same workflow. -/
theorem isFirst_isEntry_iff_of_enriched {name : String} {i : ℕ} :
    IsFirst (IsEntry name) p.processes i ↔ IsFirst (IsEntry name) p'.processes i := by
  have hplain : ∀ q : Package, IsFirst (IsEntry name) q.plain.processes i ↔
      IsFirst (IsEntry name) q.processes i := fun q =>
    isFirst_isEntry_transform (keepsNames_withMetadata _) fun _ => rfl
  rw [← hplain p, ← hplain p', processes_plain_eq h]

/-- The workflows in scope are the same, with the same or more metadata. -/
theorem forall₂_select_workflows (entry : Option String) :
    List.Forall₂ CwlProcess.Enriched (p.select entry).workflows (p'.select entry).workflows := by
  cases entry with
  | none =>
    show List.Forall₂ _ p.workflows p'.workflows
    rw [workflows_eq_filter, workflows_eq_filter]
    refine List.rel_filter (fun w w' hw => ?_) h
    dsimp only
    rw [CwlProcess.isWorkflow_iff, CwlProcess.isWorkflow_iff, hw.plain.processClass]
  | some name =>
    by_cases hentry : ∃ w ∈ p.processes, IsEntry name w
    · obtain ⟨i, hi⟩ := exists_isFirst.mpr hentry
      have hi' := (isFirst_isEntry_iff_of_enriched h).mp hi
      obtain ⟨w', hw', -⟩ := hi'.1
      obtain ⟨w, hw, henriched⟩ := exists_getElem?_of_forall₂ h hw'
      rw [select_of_isFirst hi hw, select_of_isFirst hi' hw']
      exact .cons henriched .nil
    · have hentry' : ¬∃ w ∈ p'.processes, IsEntry name w := by
        rw [← exists_isFirst] at hentry ⊢
        simpa only [isFirst_isEntry_iff_of_enriched h] using hentry
      rw [select_of_not_entry hentry, select_of_not_entry hentry']
      exact .nil

theorem missing_select_of_enriched (entry : Option String) :
    (p'.select entry).scope.missing = (p.select entry).scope.missing := by
  have hplain : ∀ q : Package,
      (q.plain.select entry).scope.missing = (q.select entry).scope.missing := by
    intro q
    rw [plain, scope_select_transform (keepsNames_withMetadata _) fun _ => rfl,
      Scope.missing_transform]
  rw [← hplain p, ← hplain p', (selected_congr _ _ (processes_plain_eq h) entry).1]

/-- **More metadata, fewer issues.**  What is raised about missing metadata is some of what
was raised, in the same order. -/
theorem metadata_issues_sublist (entry : Option String) :
    (Rule.metadata.issues p' entry).Sublist (Rule.metadata.issues p entry) := by
  refine List.Sublist.map _ ?_
  rw [Rule.findings, Rule.findings, scopedFindings, scopedFindings, missing_select_of_enriched h]
  cases (p.select entry).scope.missing with
  | some name => exact .refl _
  | none =>
    dsimp only
    refine sublist_flatMap_of_forall₂ (forall₂_zipIdx ?_ 1)
    exact (forall₂_select_workflows h entry).imp fun w w' hw n => hw.metadataFindings_sublist n

end Enriched

end Package

end CwlCompliance
