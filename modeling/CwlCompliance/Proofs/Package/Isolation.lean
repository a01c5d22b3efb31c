import CwlCompliance.CommandLine.Run
import CwlCompliance.Proofs.Package.Scoping
import CwlCompliance.Proofs.Report.History

/-!
# What is out of scope has no influence

Two packages may differ in every process that an entry point does not reach: in its
attributes, in its steps, and in what these declare in place.  The numbers of all nodes
after such a process may differ then, but neither what the entry point selects nor what
the rules find.  Only a structural validator, which is handed the whole document, can tell
the two apart.

## Main definitions

* `SameFrom` — two documents have the same processes wherever a process leads.
* `Package.AlikeFrom name` — two packages have the same classes and names at the top, and
  the same processes wherever an entry point leads.
* `Report.relabel` — a report under another source and digest.

## Main results

* `Runs.congr` — a process runs the same places in both documents.
* `SameFrom.reaches_iff` — **the same places are reached.**
* `Package.AlikeFrom.select_eq` — the same is selected.
* `Package.isolated_of_alikeFrom` — **what is out of scope has no influence.**
-/

namespace CwlCompliance

/-! ### Two documents with the same names -/

section Places

variable {ps ps' : List CwlProcess} {a b : Place} {i j : ℕ}

/-- **A step**: a process that stands at the same place in both documents runs the same
places. -/
theorem Runs.congr (hfaces : ps.map CwlProcess.face = ps'.map CwlProcess.face)
    (ha : processAt ps a = processAt ps' a) (h : Runs ps a b) : Runs ps' a b := by
  cases h with
  | inline stands step run => exact .inline (ha ▸ stands) step run
  | reference stands step run first =>
    exact .reference (ha ▸ stands) step run
      ((isFirst_of_faces (P := fun f => f.2 = some _) hfaces).mp first)

/-- What is reached lies in a process at the top that is reached. -/
theorem Reaches.head (h : Reaches ps [i] a) : ∃ j path, a = j :: path ∧ Reaches ps [i] [j] := by
  induction h with
  | refl => exact ⟨i, [], rfl, .refl⟩
  | tail hreach hrun ih =>
    obtain ⟨j, path, rfl, hj⟩ := ih
    cases hrun with
    | inline stands step run => exact ⟨j, path ++ [_], rfl, hj⟩
    | reference stands step run first =>
      exact ⟨_, [], rfl, hreach.tail (.reference stands step run first)⟩

/-- Two documents have the same processes at the top wherever a process leads. -/
def SameFrom (ps ps' : List CwlProcess) (i : ℕ) : Prop :=
  ∀ j, Reaches ps [i] [j] → ps[j]? = ps'[j]?

theorem SameFrom.processAt_eq (h : SameFrom ps ps' i) (ha : Reaches ps [i] a) :
    processAt ps a = processAt ps' a := by
  obtain ⟨j, path, rfl, hj⟩ := ha.head
  rw [processAt_cons, processAt_cons, h j hj]

/-- **The same places are reached** in both documents. -/
theorem SameFrom.reaches_iff (hfaces : ps.map CwlProcess.face = ps'.map CwlProcess.face)
    (h : SameFrom ps ps' i) : Reaches ps [i] a ↔ Reaches ps' [i] a := by
  constructor
  · intro ha
    induction ha with
    | refl => exact .refl
    | tail hreach hrun ih => exact ih.tail (hrun.congr hfaces (h.processAt_eq hreach))
  · intro ha
    -- what has been reached so far is reached in the first document, where the two agree
    induction ha with
    | refl => exact .refl
    | tail _ hrun ih => exact ih.tail (hrun.congr hfaces.symm (h.processAt_eq ih).symm)

end Places

/-! ### Selections -/

namespace Package

variable {p p' : Package} {name : String}

/-- Two packages have as many processes at the top, with the same classes and local names
position by position, and the same processes at every position at the top that is reached
from the first workflow of a name. -/
structure AlikeFrom (name : String) (p p' : Package) : Prop where
  /-- The classes and names are the same. -/
  faces : p.processes.map CwlProcess.face = p'.processes.map CwlProcess.face
  /-- What is reached at the top is the same. -/
  reached : ∀ i, IsFirst (IsEntry name) p.processes i → SameFrom p.processes p'.processes i

namespace AlikeFrom

theorem isFirst_isEntry (h : AlikeFrom name p p') {i : ℕ} :
    IsFirst (IsEntry name) p.processes i ↔ IsFirst (IsEntry name) p'.processes i :=
  isFirst_isEntry_of_faces h.faces

theorem tools_select (h : AlikeFrom name p p') {i : ℕ} (hi : IsFirst (IsEntry name) p.processes i) :
    (p.select (some name)).tools = (p'.select (some name)).tools := by
  have hsame := h.reached i hi
  have hiff := fun a => hsame.reaches_iff h.faces (a := a)
  refine (listed_tools_of_isFirst hi).eq (listed_tools_of_isFirst (h.isFirst_isEntry.mp hi)) ?_ ?_
  · intro a
    refine exists_congr fun q => ?_
    rw [← hiff]
    constructor
    · rintro ⟨hq, htool, ha⟩
      exact ⟨(hsame.processAt_eq ha).symm.trans hq, htool, ha⟩
    · rintro ⟨hq, htool, ha⟩
      exact ⟨(hsame.processAt_eq ha).trans hq, htool, ha⟩
  · rintro a q hq ⟨-, ha⟩
    exact (hsame.processAt_eq ha).symm.trans hq

/-- The same is selected. -/
theorem select_eq (h : AlikeFrom name p p') : p.select (some name) = p'.select (some name) := by
  by_cases hentry : ∃ i, IsFirst (IsEntry name) p.processes i
  · obtain ⟨i, hi⟩ := hentry
    obtain ⟨w, hw, -⟩ := hi.1
    have hw' : p'.processes[i]? = some w := (h.reached i hi i .refl).symm.trans hw
    have htools := h.tools_select hi
    rw [select_of_isFirst hi hw, select_of_isFirst (h.isFirst_isEntry.mp hi) hw'] at htools ⊢
    rw [Selection.mk.injEq]
    exact ⟨rfl, rfl, htools⟩
  · have hentry' : ¬∃ i, IsFirst (IsEntry name) p'.processes i := by
      simpa only [h.isFirst_isEntry] using hentry
    rw [exists_isFirst] at hentry hentry'
    rw [select_of_not_entry hentry, select_of_not_entry hentry']

/-! ### Findings -/

theorem classFindings_eq (h : AlikeFrom name p p') : classFindings p = classFindings p' :=
  classFindings_congr fun _ => exists_processClass_of_faces h.faces

theorem issues_eq (h : AlikeFrom name p p') (rule : Rule) :
    rule.issues p (some name) = rule.issues p' (some name) := by
  rw [Rule.issues, Rule.issues, h.select_eq]
  cases rule with
  | documentClasses => rw [Rule.findings, Rule.findings, h.classFindings_eq]
  | toolElements => rfl
  | workflowElements => rfl
  | inputElements => rfl
  | metadata => rfl

theorem recordings_eq (h : AlikeFrom name p p') (result : Option (Except Fault Outcome)) :
    p.recordings (some name) result = p'.recordings (some name) result := by
  rw [recordings, recordings, h.select_eq]
  simp only [h.issues_eq]

end AlikeFrom

end Package

/-! ### Reports -/

namespace Report

/-- A report under another source and digest. -/
def relabel (r : Report) (source digest : String) : Report := { r with source, digest }

theorem record_relabel (r : Report) (source digest : String) (s : Recording) :
    (r.relabel source digest).record s = (r.record s).relabel source digest := by
  cases s <;> rfl

/-- What is recorded does not depend on where the package came from. -/
theorem recordAll_relabel (r : Report) (source digest : String) (history : List Recording) :
    (r.relabel source digest).recordAll history = (r.recordAll history).relabel source digest := by
  induction history generalizing r with
  | nil => rfl
  | cons s history ih =>
    rw [recordAll, List.foldl_cons, record_relabel, ← recordAll, ih, recordAll, recordAll,
      List.foldl_cons]

end Report

namespace Package

/-- **What is out of scope has no influence.**  If two packages have the same classes and
names at the top, and the same processes wherever the entry point leads, the rules raise
the same issues under it, the same tools are unsupported, and the reports differ at most in
source and digest, as long as the structural validator was not run or gave the same result. -/
theorem isolated_of_alikeFrom {name : String} {p p' : Package} (h : p.AlikeFrom name p') :
    p.issues (some name) = p'.issues (some name) ∧
    (p.select (some name)).unsupported = (p'.select (some name)).unsupported ∧
    ∀ source source' result,
      p.validate source (some name) result =
        (p'.validate source' (some name) result).relabel source (Sha256.hex (Utf8.encode p.text)) ∧
      (p.validate source (some name) result).isValid =
        (p'.validate source' (some name) result).isValid := by
  refine ⟨?_, ?_, ?_⟩
  · rw [issues, issues]
    simp only [h.issues_eq]
  · rw [h.select_eq]
  · intro source source' result
    have hreport : p.validate source (some name) result =
        (p'.validate source' (some name) result).relabel source
          (Sha256.hex (Utf8.encode p.text)) := by
      rw [validate_eq_recordAll, validate_eq_recordAll, h.recordings_eq, ← Report.recordAll_relabel]
      rfl
    exact ⟨hreport, by rw [hreport]; rfl⟩

/-- The document of a workflow with its tool, after a workflow that nothing runs, with a title
and steps. -/
def spareValue (title : String) (steps : List Yaml.Value) : Yaml.Value :=
  .mapping [(.string "$graph", .sequence
    [ .mapping
        [ (.string "class", .string "Workflow"), (.string "id", .string "spare")
        , (.string "label", .string title), (.string "steps", .sequence steps) ]
    , .mapping
        [ (.string "class", .string "Workflow"), (.string "id", .string "main")
        , (.string "label", .string "title"), (.string "doc", .string "abstract")
        , (.string "version", .string "1.0"), (.string "inputs", .sequence [])
        , (.string "steps", .sequence [.mapping [(.string "run", .string "#tool")]]) ]
    , .mapping
        [ (.string "class", .string "CommandLineTool"), (.string "id", .string "tool")
        , (.string "baseCommand", .string "run"), (.string "inputs", .sequence [])
        , (.string "requirements", .mapping
            [(.string dockerClass, .mapping [(.string "dockerPull", .string "image")])]) ] ])]

/-- What such a document declares. -/
def spareDocument (title : String) (value : List Yaml.Value) (steps : List Step) : Document where
  value := spareValue title value
  cwlVersion := none
  namespaces := []
  processes :=
    [ ⟨.workflow, some "spare", some title, none, none, none, none, none, steps, []⟩
    , ⟨.workflow, some "main", some "title", some "abstract", some [], none, none, none,
        [⟨none, .reference "#tool"⟩], [(.version, .string "1.0")]⟩
    , ⟨.commandLineTool, some "tool", none, none, some [],
        some [.docker { pull := some "image" }], none, some ["run"], [], []⟩ ]

/-- A package in which the spare workflow declares a tool, before all that is in scope. -/
def draft : Package where
  text := ""
  document := spareDocument "draft"
    [.mapping [(.string "run", .mapping [(.string "class", .string "CommandLineTool")])]]
    [⟨none, .inline ⟨.commandLineTool, none, none, none, none, none, none, none, [], []⟩⟩]

/-- The same without that tool and under another title. -/
def approved : Package where
  text := ""
  document := spareDocument "approved" [] []

theorem ofValue_draft : Document.ofValue draft.document.value = .ok draft.document := rfl

theorem ofValue_approved : Document.ofValue approved.document.value = .ok approved.document := rfl

theorem alikeFrom_draft : draft.AlikeFrom "main" approved where
  faces := rfl
  reached := by
    intro i hi j hj
    have hentry : ∃ w, draft.processes[1]? = some w ∧ IsEntry "main" w :=
      ⟨_, rfl, rfl, by decide +kernel⟩
    have hbefore : ∀ k < 1, ∀ w, draft.processes[k]? = some w → ¬IsEntry "main" w := by
      rintro k hk w hw ⟨-, hname⟩
      obtain rfl : k = 0 := by omega
      obtain rfl := Option.some.inj hw
      exact absurd hname (by decide +kernel)
    obtain rfl := hi.unique ⟨hentry, hbefore⟩
    match j with
    | 0 =>
      -- the spare workflow is not among the nodes that the search finds
      obtain ⟨w, hw, -⟩ := hentry
      have hmem : number draft.processes [0] ∈
          draft.callGraph.closure [number draft.processes [1]] :=
        (mem_closure_number_iff ((processAt_top _ 1).trans hw)).mpr ⟨[0], hj, rfl⟩
      exact absurd hmem (by decide +kernel)
    | 1 => rfl
    | 2 => rfl
    | _ + 3 => rfl

theorem isolated_of_alikeFrom_draft : draft.AlikeFrom "main" approved ∧
    draft.issues (some "main") = approved.issues (some "main") ∧
    draft.issues none ≠ approved.issues none ∧
    (draft.validate "a.cwl" (some "main") none).isValid =
      (approved.validate "b.cwl" (some "main") none).isValid := by
  obtain ⟨hissues, -, hreports⟩ := isolated_of_alikeFrom alikeFrom_draft
  exact ⟨alikeFrom_draft, hissues, by decide +kernel, (hreports "a.cwl" "b.cwl" none).2⟩

/-- A machine on which the structural validator accepts one document only. -/
def strict : Machine where
  files := { entries := [] }
  structural := fun _ p =>
    .ok ⟨if p.document.value.same approved.document.value then 0 else 1, "", ""⟩

/-- A structural validator can tell two packages apart by what is out of scope. -/
theorem isValid_report_strict :
    let c : ValidateCommand := { source := "-", entryPoint := some "main" }
    Document.ofValue draft.document.value = .ok draft.document ∧
      Document.ofValue approved.document.value = .ok approved.document ∧
      draft.AlikeFrom "main" approved ∧
      (c.report strict (c.plan {}) draft).isValid = false ∧
      (c.report strict (c.plan {}) approved).isValid = true :=
  ⟨ofValue_draft, ofValue_approved, alikeFrom_draft, by decide +kernel, by decide +kernel⟩

end Package

end CwlCompliance
