import CwlCompliance.Proofs.Checks.Finding
import CwlCompliance.Proofs.Process.Transform

/-!
# Scope under a change of attributes

A change of the processes of a package that keeps their classes and the local names
of processes and references keeps what is in scope under every entry point, and what it
selects: the same places are selected, in the same order.  So it keeps what a rule finds, if
it keeps what the rule finds about one process.

## Main definitions

* `Package.transform f g` — the attributes of every process changed by `f`, every
  reference by `g`.
* `Selection.transform f g` — the same for what is selected.

## Main results

* `Package.hasEntry_transform` — which names are entry points stays the same.
* `Package.toolInScope_transform`, `Package.workflowInScope_transform` — in scope after
  the change is what was in scope, changed.
* `Package.sameOccurrences_tools_transform`, `Package.sameOccurrences_workflows_transform` —
  the same places are selected.
* `Package.select_transform` — **selected after the change is what was selected, changed.**
* `Package.issues_transform` — a rule that sees no change in one process raises the same issues.
-/

namespace CwlCompliance

variable {f : CwlProcess → CwlProcess} {g : String → String}

namespace CwlProcess

theorem processClass_transform (hclass : ∀ q, (f q).processClass = q.processClass)
    (q : CwlProcess) : (q.transform f g).processClass = q.processClass := by
  rw [transform_eq]
  exact hclass q

end CwlProcess

/-- A scope with its workflow changed. -/
def Scope.transform (f : CwlProcess → CwlProcess) (g : String → String) : Scope → Scope
  | .everything => .everything
  | .entry name w => .entry name (w.transform f g)
  | .unknown name => .unknown name

/-- What is selected, changed. -/
def Selection.transform (f : CwlProcess → CwlProcess) (g : String → String) (s : Selection) :
    Selection where
  scope := s.scope.transform f g
  workflows := s.workflows.map (CwlProcess.transform f g)
  tools := s.tools.map (CwlProcess.transform f g)

theorem Scope.missing_transform (s : Scope) : (s.transform f g).missing = s.missing := by
  cases s <;> rfl

/-! ### The same places -/

/-- What has a property before and after the change stands at the same places, if the property
does not change. -/
theorem Listed.transform {ps l l' : List CwlProcess} {P P' : Place → CwlProcess → Prop}
    (hl : Listed ps P l) (hl' : Listed (ps.map (CwlProcess.transform f g)) P' l')
    (h : ∀ a q, P' a (q.transform f g) ↔ P a q) :
    SameOccurrences ps (ps.map (CwlProcess.transform f g)) l l' := by
  refine hl.sameOccurrences hl' fun a => ?_
  rw [processAt_map_transform]
  constructor
  · rintro ⟨q, hq, hP⟩
    exact ⟨_, by rw [hq, Option.map_some], (h a q).mpr hP⟩
  · rintro ⟨q', hq', hP⟩
    obtain ⟨q, hq, rfl⟩ := Option.map_eq_some_iff.mp hq'
    exact ⟨q, hq, (h a q).mp hP⟩

/-- What stands at the same places after the change is what stood there, changed. -/
theorem SameOccurrences.eq_map_transform {ps l l' : List CwlProcess}
    (h : SameOccurrences ps (ps.map (CwlProcess.transform f g)) l l') :
    l' = l.map (CwlProcess.transform f g) := by
  obtain ⟨places, -, hmap, hmap'⟩ := h
  have heq : l'.map some = (l.map (CwlProcess.transform f g)).map some := by
    calc
      l'.map some = places.map fun a => (processAt ps a).map (CwlProcess.transform f g) := by
        rw [← hmap', funext (processAt_map_transform ps)]
      _ = (places.map (processAt ps)).map (Option.map (CwlProcess.transform f g)) := by
        rw [List.map_map]
        rfl
      _ = (l.map (CwlProcess.transform f g)).map some := by
        rw [hmap, List.map_map, List.map_map]
        rfl
  exact List.map_injective_iff.mpr (Option.some_injective _) heq

/-! ### Packages -/

namespace Package

variable {p : Package} {entry : Option String} {name : String}

/-- A package with the attributes of every process changed by `f` and every reference
by `g`, those of processes declared in place included. -/
def transform (f : CwlProcess → CwlProcess) (g : String → String) (p : Package) : Package :=
  { p with document :=
    { p.document with processes := p.document.processes.map (CwlProcess.transform f g) } }

theorem processes_transform :
    (p.transform f g).processes = p.processes.map (CwlProcess.transform f g) := rfl

theorem exists_mem_processes_transform {P : CwlProcess → Prop}
    (h : ∀ q, P (q.transform f g) ↔ P q) :
    (∃ q ∈ (p.transform f g).processes, P q) ↔ ∃ q ∈ p.processes, P q := by
  rw [processes_transform]
  constructor
  · rintro ⟨q', hq', hP⟩
    obtain ⟨q, hq, rfl⟩ := List.mem_map.mp hq'
    exact ⟨q, hq, (h q).mp hP⟩
  · rintro ⟨q, hq, hP⟩
    exact ⟨_, List.mem_map_of_mem hq, (h q).mpr hP⟩

variable (hnames : KeepsNames f g) (hclass : ∀ q, (f q).processClass = q.processClass)
include hnames hclass

theorem isEntry_transform {w : CwlProcess} : IsEntry name (w.transform f g) ↔ IsEntry name w := by
  rw [IsEntry, IsEntry, hnames.localId, CwlProcess.processClass_transform hclass]

theorem isFirst_isEntry_transform {i : ℕ} :
    IsFirst (IsEntry name) (p.transform f g).processes i ↔
      IsFirst (IsEntry name) p.processes i := by
  rw [processes_transform, isFirst_map]
  simp only [isEntry_transform hnames hclass]

theorem hasEntry_transform : (p.transform f g).HasEntry entry ↔ p.HasEntry entry := by
  simp only [HasEntry, exists_mem_processes_transform fun _ => isEntry_transform hnames hclass]

/-! ### What is selected -/

theorem sameOccurrences_workflows_transform (p : Package) (entry : Option String) :
    SameOccurrences p.processes (p.transform f g).processes (p.select entry).workflows
      ((p.transform f g).select entry).workflows := by
  refine (p.listed_select_workflows entry).transform
    ((p.transform f g).listed_select_workflows entry) fun a w => ?_
  simp only [CwlProcess.processClass_transform hclass, isFirst_isEntry_transform hnames hclass]

theorem sameOccurrences_tools_transform (p : Package) (entry : Option String) :
    SameOccurrences p.processes (p.transform f g).processes (p.select entry).tools
      ((p.transform f g).select entry).tools := by
  refine (p.listed_select_tools entry).transform
    ((p.transform f g).listed_select_tools entry) fun a t => ?_
  simp only [CwlProcess.processClass_transform hclass, isFirst_isEntry_transform hnames hclass]
  simp only [processes_transform, reaches_map_transform hnames]

theorem scope_select_transform (p : Package) (entry : Option String) :
    ((p.transform f g).select entry).scope = (p.select entry).scope.transform f g := by
  cases entry with
  | none => rfl
  | some name =>
    by_cases h : ∃ w ∈ p.processes, IsEntry name w
    · obtain ⟨i, hi⟩ := exists_isFirst.mpr h
      obtain ⟨w, hw, -⟩ := hi.1
      have hw' : (p.transform f g).processes[i]? = some (w.transform f g) := by
        rw [processes_transform, List.getElem?_map, hw, Option.map_some]
      rw [select_of_isFirst hi hw,
        select_of_isFirst ((isFirst_isEntry_transform hnames hclass).mpr hi) hw']
      rfl
    · have h' : ¬∃ w ∈ (p.transform f g).processes, IsEntry name w := by
        rwa [exists_mem_processes_transform fun _ => isEntry_transform hnames hclass]
      rw [select_of_not_entry h, select_of_not_entry h']
      rfl

/-- **Selected after the change is what was selected, changed.** -/
theorem select_transform (p : Package) (entry : Option String) :
    (p.transform f g).select entry = (p.select entry).transform f g := by
  have hscope := scope_select_transform hnames hclass p entry
  have hworkflows := (sameOccurrences_workflows_transform hnames hclass p entry).eq_map_transform
  have htools := (sameOccurrences_tools_transform hnames hclass p entry).eq_map_transform
  rw [Selection.transform, ← hscope, ← hworkflows, ← htools]

/-- A tool is in scope after the change when it is a tool in scope, changed. -/
theorem toolInScope_transform {t : CwlProcess} : (p.transform f g).ToolInScope entry t ↔
    ∃ t', p.ToolInScope entry t' ∧ t'.transform f g = t := by
  simp only [← mem_select_tools]
  rw [select_transform hnames hclass]
  exact List.mem_map

/-- A workflow is in scope after the change when it is a workflow in scope, changed. -/
theorem workflowInScope_transform {w : CwlProcess} : (p.transform f g).WorkflowInScope entry w ↔
    ∃ w', p.WorkflowInScope entry w' ∧ w'.transform f g = w := by
  simp only [← mem_select_workflows]
  rw [select_transform hnames hclass]
  exact List.mem_map

end Package

/-! ### What is found -/

theorem eachFindings_transform {find : ℕ → CwlProcess → List Finding}
    (h : ∀ n q, find n (q.transform f g) = find n q) (qs : List CwlProcess) :
    eachFindings find (qs.map (CwlProcess.transform f g)) = eachFindings find qs := by
  rw [eachFindings, eachFindings, List.zipIdx_map, List.flatMap_map]
  exact List.flatMap_congr fun x _ => h x.2 x.1

namespace Package

theorem classFindings_transform (hclass : ∀ q, (f q).processClass = q.processClass)
    (p : Package) : classFindings (p.transform f g) = classFindings p := by
  refine classFindings_congr fun c => exists_mem_processes_transform fun q => ?_
  rw [CwlProcess.processClass_transform hclass]

/-- A rule raises the same issues after the change, if it finds the same about each process. -/
theorem issues_transform (hnames : KeepsNames f g)
    (hclass : ∀ q, (f q).processClass = q.processClass) {rule : Rule}
    (hfind : ∀ find, rule.each? = some find → ∀ n q, find n (q.transform f g) = find n q)
    (p : Package) (entry : Option String) :
    rule.issues (p.transform f g) entry = rule.issues p entry := by
  have hscoped : ∀ {found found' : List Finding}, found = found' →
      scopedFindings rule ((p.select entry).transform f g) found =
        scopedFindings rule (p.select entry) found' := by
    rintro found _ rfl
    rw [scopedFindings, scopedFindings, Selection.transform, Scope.missing_transform]
  rw [Rule.issues, Rule.issues, select_transform hnames hclass]
  congr 1
  cases rule with
  | documentClasses => exact classFindings_transform hclass p
  | toolElements => exact hscoped (eachFindings_transform (hfind _ rfl) _)
  | workflowElements => exact hscoped (eachFindings_transform (hfind _ rfl) _)
  | inputElements => exact hscoped (eachFindings_transform (hfind _ rfl) _)
  | metadata => exact hscoped (eachFindings_transform (hfind _ rfl) _)

end Package

end CwlCompliance
