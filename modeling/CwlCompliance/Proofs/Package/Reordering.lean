import CwlCompliance.CommandLine.Run
import CwlCompliance.Proofs.Document.Reordering
import CwlCompliance.Proofs.Package.Narrowing
import CwlCompliance.Proofs.Report.Verdict

/-!
# Packages in another order

If the processes at the top of a package come in another order, and no two of them share a
name, an entry point means the same workflow and puts the same occurrences in scope.  So the
verdict is the same; and where findings name processes by their own names and not by their
numbers, each rule finds the same, in another order.

## Main definitions

* `Package.Reordered σ p p'` — the same processes in another order, no two with one name.

## Main results

* `Package.Reordered.workflows`, `Package.Reordered.tools` — the same is in scope.
* `Package.Reordered.isValid_eq` — the verdict is the same.
* `Package.Reordered.issues_perm`, `Package.Reordered.unsupported_perm` — so is what is
  found, but for its order.
* `Package.repacked_alike` — **the order of the items of a packed document does not matter.**
-/

namespace CwlCompliance

namespace Package

/-- The processes at the top of `p'` are those of `p` in another order, and no two of them
have the same local identifier. -/
structure Reordered (σ : Equiv.Perm ℕ) (p p' : Package) : Prop where
  /-- They are the same processes. -/
  processes : CwlCompliance.Reordered σ p.processes p'.processes
  /-- Their local identifiers are distinct. -/
  distinct : DistinctIds p.processes

namespace Reordered

variable {σ : Equiv.Perm ℕ} {p p' : Package} {entry : Option String}

theorem isFirst_isEntry_iff (h : p.Reordered σ p') {name : String} {i : ℕ} :
    IsFirst (IsEntry name) p'.processes (σ i) ↔ IsFirst (IsEntry name) p.processes i :=
  h.processes.isFirst_iff fun _ _ _ _ hv hw hventry hwentry =>
    h.distinct.unique hv hw hventry.2 hwentry.2

/-- The same occurrences of workflows are in scope. -/
theorem workflows (h : p.Reordered σ p') (entry : Option String) :
    MovedOccurrences σ p.processes p'.processes (p.select entry).workflows
      (p'.select entry).workflows := by
  refine h.processes.movedOccurrences (p.listed_select_workflows entry)
    (p'.listed_select_workflows entry) fun a w _ => and_congr_right fun _ => ?_
  constructor
  · rintro ⟨j, hj, hfirst⟩
    cases a with
    | nil => exact nomatch hj
    | cons i path =>
      obtain ⟨rfl, rfl⟩ := List.cons.inj hj
      exact ⟨i, rfl, fun name hname => h.isFirst_isEntry_iff.mp (hfirst name hname)⟩
  · rintro ⟨i, rfl, hfirst⟩
    exact ⟨σ i, rfl, fun name hname => h.isFirst_isEntry_iff.mpr (hfirst name hname)⟩

/-- The same occurrences of tools are in scope. -/
theorem tools (h : p.Reordered σ p') (entry : Option String) :
    MovedOccurrences σ p.processes p'.processes (p.select entry).tools
      (p'.select entry).tools := by
  refine h.processes.movedOccurrences (p.listed_select_tools entry)
    (p'.listed_select_tools entry) fun a t _ => and_congr_right fun _ => ?_
  refine forall₂_congr fun name _ => ?_
  constructor
  · rintro ⟨j, hfirst, hreach⟩
    rw [← σ.apply_symm_apply j] at hfirst hreach
    rw [h.isFirst_isEntry_iff] at hfirst
    exact ⟨σ.symm j, hfirst, (h.processes.reaches_iff h.distinct).mp hreach⟩
  · rintro ⟨i, hfirst, hreach⟩
    exact ⟨σ i, h.isFirst_isEntry_iff.mpr hfirst, (h.processes.reaches_iff h.distinct).mpr hreach⟩

theorem workflows_perm (h : p.Reordered σ p') (entry : Option String) :
    (p'.select entry).workflows.Perm (p.select entry).workflows :=
  (h.workflows entry).perm h.processes

theorem tools_perm (h : p.Reordered σ p') (entry : Option String) :
    (p'.select entry).tools.Perm (p.select entry).tools :=
  (h.tools entry).perm h.processes

/-- The same entry points are missing. -/
theorem missing_eq (h : p.Reordered σ p') (entry : Option String) :
    (p'.select entry).scope.missing = (p.select entry).scope.missing := by
  cases entry with
  | none => rfl
  | some name =>
    by_cases hentry : ∃ w ∈ p.processes, IsEntry name w
    · obtain ⟨i, hi⟩ := exists_isFirst.mpr hentry
      obtain ⟨w, hw, -⟩ := hi.1
      rw [select_of_isFirst hi hw, select_of_isFirst (h.isFirst_isEntry_iff.mpr hi)
        ((h.processes i).trans hw)]
    · have hentry' : ¬∃ w ∈ p'.processes, IsEntry name w := by
        simpa only [h.processes.mem_iff] using hentry
      rw [select_of_not_entry hentry, select_of_not_entry hentry']

/-! ### The verdict -/

/-- The verdict is the same, if the structural validator says the same. -/
theorem isValid_eq (h : p.Reordered σ p') (source source' : String) (entry : Option String)
    (result : Option (Except Fault Outcome)) :
    (p'.validate source' entry result).isValid = (p.validate source entry result).isValid := by
  rw [Bool.eq_iff_iff, isValid_validate_iff, isValid_validate_iff, forall_harmless_findings_iff,
    forall_harmless_findings_iff, unsupported_eq_nil_iff, unsupported_eq_nil_iff, h.missing_eq]
  simp only [h.processes.mem_iff, (h.workflows_perm entry).mem_iff, (h.tools_perm entry).mem_iff]

/-! ### What is found -/

theorem classFindings_eq (h : p.Reordered σ p') : classFindings p' = classFindings p :=
  classFindings_congr fun _ =>
    exists_congr fun _ => and_congr_left fun _ => h.processes.perm.mem_iff

/-- Each rule raises the same issues, in another order, if what is in scope has names. -/
theorem issues_perm (h : p.Reordered σ p')
    (hworkflows : ∀ w ∈ (p.select entry).workflows, w.Named)
    (htools : ∀ t ∈ (p.select entry).tools, t.Named) (rule : Rule) :
    (rule.issues p' entry).Perm (rule.issues p entry) := by
  have hscoped : ∀ {found found' : List Finding}, found'.Perm found →
      (scopedFindings rule (p'.select entry) found').Perm
        (scopedFindings rule (p.select entry) found) := by
    intro found found' hfound
    rw [scopedFindings, scopedFindings, h.missing_eq]
    cases (p.select entry).scope.missing with
    | some name => exact .refl _
    | none => exact hfound
  have hdisplay : ∀ w ∈ (p.select entry).workflows, ∀ m n, w.display m = w.display n :=
    fun w hw => CwlProcess.display_eq_of_named (hworkflows w hw)
  refine List.Perm.map _ ?_
  cases rule with
  | documentClasses => exact .of_eq h.classFindings_eq
  | toolElements =>
    refine hscoped (perm_flatMap_zipIdx (h.tools_perm entry) (fun t ht m n => ?_) 1)
    dsimp only
    rw [toolFindings, toolFindings, CwlProcess.display_eq_of_named (htools t ht) m n]
  | workflowElements =>
    refine hscoped (perm_flatMap_zipIdx (h.workflows_perm entry) (fun w hw m n => ?_) 1)
    dsimp only
    rw [workflowFindings, workflowFindings, hdisplay w hw m n]
  | inputElements =>
    refine hscoped (perm_flatMap_zipIdx (h.workflows_perm entry) (fun w hw m n => ?_) 1)
    dsimp only
    rw [workflowInputFindings, workflowInputFindings, hdisplay w hw m n]
  | metadata =>
    refine hscoped (perm_flatMap_zipIdx (h.workflows_perm entry) (fun w hw m n => ?_) 1)
    dsimp only
    rw [metadataFindings, metadataFindings, hdisplay w hw m n]

/-- The same tools are unsupported, in another order, if the tools in scope have names. -/
theorem unsupported_perm (h : p.Reordered σ p')
    (htools : ∀ t ∈ (p.select entry).tools, t.Named) :
    (p'.select entry).unsupported.Perm (p.select entry).unsupported := by
  rw [Selection.unsupported_eq_flatMap, Selection.unsupported_eq_flatMap]
  refine perm_flatMap_zipIdx (h.tools_perm entry) (fun t ht m n => ?_) 1
  dsimp only
  rw [CwlProcess.display_eq_of_named (htools t ht) m n]

end Reordered

/-! ### Packed documents -/

/-- **The order of the items of a packed document does not matter.**  In another order, it
declares the same processes.  If no two of them have the same local identifier, the same
occurrences are in scope under every entry point, the verdict is the same, as long as the
structural validator was not run or gave the same result, and if all that is in scope has a
local identifier, each rule raises the same issues and the same tools are unsupported, both
in some other order. -/
theorem repacked_alike {σ : Equiv.Perm ℕ} {v v' : Yaml.Value} {d : Document}
    (hv : Repacked σ v v') (hd : Document.ofValue v = .ok d) (hids : DistinctIds d.processes) :
    ∃ d', Document.ofValue v' = .ok d' ∧ CwlCompliance.Reordered σ d.processes d'.processes ∧
      ∀ (text text' : String) (entry : Option String),
        let p : Package := ⟨text, d⟩
        let p' : Package := ⟨text', d'⟩
        MovedOccurrences σ d.processes d'.processes (p.select entry).workflows
          (p'.select entry).workflows ∧
        MovedOccurrences σ d.processes d'.processes (p.select entry).tools
          (p'.select entry).tools ∧
        (∀ source source' result, (p'.validate source' entry result).isValid =
          (p.validate source entry result).isValid) ∧
        ((∀ w ∈ (p.select entry).workflows, w.Named) → (∀ t ∈ (p.select entry).tools, t.Named) →
          (∀ rule : Rule, (rule.issues p' entry).Perm (rule.issues p entry)) ∧
          (p'.select entry).unsupported.Perm (p.select entry).unsupported) := by
  obtain ⟨d', hd', hprocesses⟩ := hv.exists_ofValue_eq_ok hd
  refine ⟨d', hd', hprocesses, fun text text' entry => ?_⟩
  have hreordered : Package.Reordered σ ⟨text, d⟩ ⟨text', d'⟩ := ⟨hprocesses, hids⟩
  exact ⟨hreordered.workflows entry, hreordered.tools entry,
    fun source source' result => hreordered.isValid_eq source source' entry result,
    fun hworkflows htools => ⟨hreordered.issues_perm hworkflows htools,
      hreordered.unsupported_perm htools⟩⟩

/-- The document of two workflows that run the same tool. -/
def sharedValue (first second : String) : Yaml.Value :=
  let workflow (id : String) : Yaml.Value := .mapping
    [ (.string "class", .string "Workflow"), (.string "id", .string id)
    , (.string "label", .string "title"), (.string "doc", .string "abstract")
    , (.string "version", .string "1.0"), (.string "inputs", .sequence [])
    , (.string "steps", .sequence [.mapping [(.string "run", .string "#tool")]]) ]
  let tool : Yaml.Value := .mapping
    [ (.string "class", .string "CommandLineTool"), (.string "id", .string "tool")
    , (.string "baseCommand", .string "run"), (.string "inputs", .sequence [])
    , (.string "requirements", .mapping
        [(.string dockerClass, .mapping [(.string "dockerPull", .string "image")])]) ]
  .mapping [(.string "$graph", .sequence [workflow first, workflow second, tool])]

/-- The package of two workflows that run the same tool. -/
def shared (first second : String) : Package where
  text := ""
  document := {
    value := sharedValue first second
    cwlVersion := none
    namespaces := []
    processes :=
      let workflow (id : String) : CwlProcess :=
        ⟨.workflow, some id, some "title", some "abstract", some [], none, none, none,
          [⟨none, .reference "#tool"⟩], [(.version, .string "1.0")]⟩
      let tool : CwlProcess :=
        ⟨.commandLineTool, some "tool", none, none, some [],
          some [.docker { pull := some "image" }], none, some ["run"], [], []⟩
      [workflow first, workflow second, tool] }

theorem ofValue_shared (first second : String) :
    Document.ofValue (sharedValue first second) = .ok (shared first second).document := rfl

theorem repacked_shared (first second : String) :
    Repacked (Equiv.swap 0 1) (sharedValue first second) (sharedValue second first) :=
  .intro rfl rfl rfl (.swap _ _ _)

theorem distinctIds_shared : DistinctIds (shared "align" "merge").processes := by decide +kernel

theorem repacked_alike_shared :
    Repacked (Equiv.swap 0 1) (sharedValue "align" "merge") (sharedValue "merge" "align") ∧
    DistinctIds (shared "align" "merge").processes ∧
    ((shared "merge" "align").validate "-" none none).isValid =
      ((shared "align" "merge").validate "-" none none).isValid ∧
    (Rule.metadata.issues (shared "merge" "align") none).Perm
      (Rule.metadata.issues (shared "align" "merge") none) ∧
    Rule.metadata.issues (shared "merge" "align") none ≠
      Rule.metadata.issues (shared "align" "merge") none := by
  obtain ⟨d', hd', -, halike⟩ :=
    repacked_alike (repacked_shared "align" "merge") (ofValue_shared _ _) distinctIds_shared
  obtain rfl : (shared "merge" "align").document = d' :=
    Except.ok.inj ((ofValue_shared _ _).symm.trans hd')
  obtain ⟨-, -, hvalid, hfound⟩ := halike "" "" none
  have hworkflows : ∀ w ∈ ((shared "align" "merge").select none).workflows, w.Named := by
    decide +kernel
  have htools : ∀ t ∈ ((shared "align" "merge").select none).tools, t.Named := by
    decide +kernel
  exact ⟨repacked_shared _ _, distinctIds_shared, hvalid "-" "-" none,
    (hfound hworkflows htools).1 .metadata, by decide +kernel⟩

/-- A machine on which the structural validator accepts one order of the items only. -/
def orderly : Machine where
  files := { entries := [] }
  structural := fun _ p =>
    .ok ⟨if p.document.value.same (sharedValue "align" "merge") then 0 else 1, "", ""⟩

/-- A structural validator can tell two orders apart. -/
theorem isValid_report_orderly :
    let c : ValidateCommand := { source := "-" }
    let p : Package := shared "align" "merge"
    let p' : Package := shared "merge" "align"
    Document.ofValue p.document.value = .ok p.document ∧
      Document.ofValue p'.document.value = .ok p'.document ∧
      Repacked (Equiv.swap 0 1) p.document.value p'.document.value ∧
      DistinctIds p.processes ∧
      (c.report orderly (c.plan {}) p).isValid = true ∧
      (c.report orderly (c.plan {}) p').isValid = false :=
  ⟨ofValue_shared _ _, ofValue_shared _ _, repacked_shared _ _, distinctIds_shared,
    by decide +kernel, by decide +kernel⟩

end Package

end CwlCompliance
