import CwlCompliance.Package.Selection
import CwlCompliance.Proofs.Process.Search

/-!
# What an entry point selects

An entry point means the first workflow at the top with its local name; the tools in
its scope are those that this workflow reaches.  Without an entry point every workflow
at the top is in scope, and every tool, those declared in place included.

## Main definitions

* `IsEntry name w` — `w` is a workflow with the local name `name`.
* `Package.ToolInScope`, `Package.WorkflowInScope` — what an entry point puts in scope.
* `Package.InScopeAt` — where a process of a class stands that is in scope.

## Main results

* `Package.workflows_eq_filter`, `Package.tools_eq_filter` — what stands at the top.
* `Package.find?_eq_some`, `Package.select_of_isFirst`, `Package.select_of_not_entry` —
  what a name selects.
* `Package.listed_select_workflows`, `Package.listed_select_tools` — what is selected, by
  where it stands.
* `Package.mem_select_tools`, `Package.mem_select_workflows` — what is selected is what
  is in scope.
* `Package.listed_tools_of_entry` — **the tools selected are exactly those that the
  first workflow of the name reaches.**
-/

namespace CwlCompliance

theorem CwlProcess.isWorkflow_iff {p : CwlProcess} :
    p.isWorkflow = true ↔ p.processClass = .workflow := by
  rw [isWorkflow, decide_eq_true_eq]

theorem CwlProcess.isTool_iff {p : CwlProcess} :
    p.isTool = true ↔ p.processClass = .commandLineTool := by
  rw [isTool, decide_eq_true_eq]

/-! ### Positions -/

theorem positionsFrom_eq {α : Type} (P : α → Bool) (l : List α) : ∀ n,
    positionsFrom P n l = ((l.zipIdx n).filter fun x => P x.1).map (·.2) := by
  induction l with
  | nil => intro n; rfl
  | cons a l ih =>
    intro n
    rw [positionsFrom, List.zipIdx_cons, List.filter_cons, ih (n + 1)]
    cases P a <;> rfl

theorem filterMap_getElem?_positionsFrom {α : Type} (P : α → Bool) (l : List α) :
    (positionsFrom P 0 l).filterMap (fun n => l[n]?) = l.filter P := by
  have hget : ∀ x ∈ l.zipIdx.filter fun x => P x.1, l[x.2]? = some x.1 := by
    intro x hx
    exact List.mem_zipIdx_iff_getElem?.mp (List.mem_filter.mp hx).1
  rw [positionsFrom_eq, List.filterMap_map]
  show (l.zipIdx.filter fun x => P x.1).filterMap (fun x => l[x.2]?) = l.filter P
  rw [List.filterMap_congr hget, show (fun x : α × ℕ => some x.1) = some ∘ Prod.fst from rfl,
    List.filterMap_eq_map, show (fun x : α × ℕ => P x.1) = P ∘ Prod.fst from rfl,
    ← List.filter_map, List.zipIdx_map_fst]

/-- `w` is a workflow with a local name. -/
def IsEntry (name : String) (w : CwlProcess) : Prop :=
  w.processClass = .workflow ∧ w.localId = some name

/-- Entry points depend on the classes and names alone. -/
theorem isFirst_isEntry_of_faces {ps ps' : List CwlProcess} {name : String} {i : ℕ}
    (h : ps.map CwlProcess.face = ps'.map CwlProcess.face) :
    IsFirst (IsEntry name) ps i ↔ IsFirst (IsEntry name) ps' i :=
  isFirst_of_faces (P := fun x => x.1 = .workflow ∧ x.2 = some name) h

namespace Package

variable {p : Package} {name : String} {i : ℕ} {w : CwlProcess}

theorem workflows_eq_filter (p : Package) :
    p.workflows = p.processes.filter CwlProcess.isWorkflow :=
  filterMap_getElem?_positionsFrom _ _

theorem tools_eq_filter (p : Package) : p.tools = p.processes.filter CwlProcess.isTool :=
  filterMap_getElem?_positionsFrom _ _

/-- A name means the first workflow at the top that has it. -/
theorem find?_eq_some : p.find? name = some i ↔ IsFirst (IsEntry name) p.processes i := by
  -- the search compares what is found under a position, which is the process itself
  have htest : ∀ (k : ℕ) (q : CwlProcess), p.processes[k]? = some q →
      (decide (q.isWorkflow = true ∧
          (p.processes[k]?.bind CwlProcess.localId == some name) = true) = true ↔
        IsEntry name q) := by
    intro k q hq
    rw [hq, decide_eq_true_eq, CwlProcess.isWorkflow_iff, Option.bind_some, beq_iff_eq, IsEntry]
  have hfind := fun x : CwlProcess × ℕ => find?_eq_some_iff_isFirst (b := x)
    (t := p.processes.zipIdx) (f := fun k q => (q, k))
    (q := fun x => decide (x.1.isWorkflow = true ∧
      (p.processes[x.2]?.bind CwlProcess.localId == some name) = true))
    (fun k => by rw [List.getElem?_zipIdx]; simp) htest
  rw [find?, workflowPositions, positionsFrom_eq, List.find?_map, List.find?_filter,
    Option.map_eq_some_iff]
  constructor
  · rintro ⟨x, hx, rfl⟩
    obtain ⟨k, q, -, rfl, hfirst⟩ := (hfind x).mp hx
    exact hfirst
  · intro hfirst
    obtain ⟨w, hw, -⟩ := hfirst.1
    exact ⟨(w, i), (hfind (w, i)).mpr ⟨i, w, hw, rfl, hfirst⟩, rfl⟩

theorem node?_eq (p : Package) (i : ℕ) :
    p.node? i = p.processes[i]?.map fun w => (number p.processes [i], w) :=
  CallGraph.getElem?_tops p.processes i

/-- What is selected by the name of a workflow. -/
theorem select_of_isFirst (h : IsFirst (IsEntry name) p.processes i)
    (hw : p.processes[i]? = some w) : p.select (some name) =
      { scope := .entry name w
        workflows := [w]
        tools := p.callGraph.toolsFrom (number p.processes [i]) } := by
  have hnode : (p.find? name).bind p.node? = some (number p.processes [i], w) := by
    rw [find?_eq_some.mpr h, Option.bind_some, node?_eq, hw]
    rfl
  rw [select]
  simp only [hnode]

/-- What is selected by a name that no workflow at the top has. -/
theorem select_of_not_entry (h : ¬∃ w ∈ p.processes, IsEntry name w) : p.select (some name) =
    { scope := .unknown name, workflows := [], tools := [] } := by
  have hfind : p.find? name = none := by
    cases hi : p.find? name with
    | none => rfl
    | some i => exact absurd (exists_isFirst.mp ⟨i, find?_eq_some.mp hi⟩) h
  rw [select]
  simp only [hfind, Option.bind_none]

theorem listed_tools_of_isFirst (h : IsFirst (IsEntry name) p.processes i) :
    Listed p.processes (fun a t => t.processClass = .commandLineTool ∧
      Reaches p.processes [i] a) (p.select (some name)).tools := by
  obtain ⟨w, hw, -⟩ := h.1
  rw [select_of_isFirst h hw]
  have hlisted := listed_toolsFrom (a := [i]) ((processAt_top p.processes i).trans hw)
  exact hlisted.congr fun a t _ => by rw [CwlProcess.isTool_iff]

theorem listed_tools_of_none (p : Package) :
    Listed p.processes (fun _ t => t.processClass = .commandLineTool) (p.select none).tools :=
  (listed_tools p.processes).congr fun _ _ _ => CwlProcess.isTool_iff

/-- Those at the top with a property, in order. -/
theorem listed_filter_top (ps : List CwlProcess) (P : CwlProcess → Bool) :
    Listed ps (fun a q => P q = true ∧ ∃ i, a = [i]) (ps.filter P) := by
  set picked := ps.zipIdx.filter fun x => P x.1 with hpicked
  have hget : ∀ x ∈ picked, processAt ps [x.2] = some x.1 := by
    intro x hx
    rw [processAt_top]
    exact List.mem_zipIdx_iff_getElem?.mp (List.mem_filter.mp hx).1
  refine ⟨picked.map fun x => [x.2], ?_, ?_, ?_⟩
  · rw [List.pairwise_map]
    have hlt : ∀ x y : CwlProcess × ℕ, x.2 < y.2 → [x.2] < [y.2] := by
      intro x y h
      exact List.Lex.rel h
    exact ((pairwise_zipIdx ps).filter _).imp (hlt _ _)
  · intro a
    rw [List.mem_map]
    constructor
    · rintro ⟨x, hx, rfl⟩
      exact ⟨x.1, hget x hx, (List.mem_filter.mp hx).2, x.2, rfl⟩
    · rintro ⟨q, hq, hP, i, rfl⟩
      rw [processAt_top] at hq
      exact ⟨(q, i), List.mem_filter.mpr ⟨List.mem_zipIdx_iff_getElem?.mpr hq, hP⟩, rfl⟩
  · have hfilter : ps.filter P = picked.map Prod.fst := by
      rw [hpicked, show (fun x : CwlProcess × ℕ => P x.1) = P ∘ Prod.fst from rfl,
        ← List.filter_map, List.zipIdx_map_fst]
    rw [hfilter, List.map_map, List.map_map]
    exact List.map_congr_left hget

/-- The workflows selected, by where they stand. -/
theorem listed_select_workflows (p : Package) (entry : Option String) :
    Listed p.processes (fun a w => w.processClass = .workflow ∧ ∃ i, a = [i] ∧
      ∀ name, entry = some name → IsFirst (IsEntry name) p.processes i)
      (p.select entry).workflows := by
  cases entry with
  | none =>
    show Listed _ _ p.workflows
    rw [workflows_eq_filter]
    exact (listed_filter_top p.processes _).congr fun a w _ => by
      simp [CwlProcess.isWorkflow_iff]
  | some name =>
    by_cases h : ∃ w ∈ p.processes, IsEntry name w
    · obtain ⟨i, hi⟩ := exists_isFirst.mpr h
      obtain ⟨v, hv, hentry⟩ := hi.1
      rw [select_of_isFirst hi hv]
      refine ⟨[[i]], List.pairwise_singleton _ _, fun a => ?_, ?_⟩
      · rw [List.mem_singleton]
        constructor
        · rintro rfl
          refine ⟨v, (processAt_top ..).trans hv, hentry.1, i, rfl, ?_⟩
          rintro _ ⟨⟩
          exact hi
        · rintro ⟨w, -, -, j, rfl, hfirst⟩
          rw [(hfirst name rfl).unique hi]
      · rw [List.map_singleton, List.map_singleton, processAt_top, hv]
    · rw [select_of_not_entry h]
      refine ⟨[], .nil, fun a => iff_of_false List.not_mem_nil ?_, rfl⟩
      rintro ⟨w, -, -, i, -, hfirst⟩
      exact h (exists_isFirst.mp ⟨i, hfirst name rfl⟩)

/-- The tools selected, by where they stand. -/
theorem listed_select_tools (p : Package) (entry : Option String) :
    Listed p.processes (fun a t => t.processClass = .commandLineTool ∧
      ∀ name, entry = some name →
        ∃ i, IsFirst (IsEntry name) p.processes i ∧ Reaches p.processes [i] a)
      (p.select entry).tools := by
  cases entry with
  | none => exact p.listed_tools_of_none.congr fun a t _ => by simp
  | some name =>
    by_cases h : ∃ w ∈ p.processes, IsEntry name w
    · obtain ⟨i, hi⟩ := exists_isFirst.mpr h
      refine (listed_tools_of_isFirst hi).congr fun a t _ => and_congr_right fun _ => ?_
      constructor
      · rintro hreach _ ⟨⟩
        exact ⟨i, hi, hreach⟩
      · intro hscope
        obtain ⟨j, hj, hreach⟩ := hscope name rfl
        exact hj.unique hi ▸ hreach
    · rw [select_of_not_entry h]
      refine ⟨[], .nil, fun a => iff_of_false List.not_mem_nil ?_, rfl⟩
      rintro ⟨t, -, -, hscope⟩
      obtain ⟨i, hi, -⟩ := hscope name rfl
      exact h (exists_isFirst.mp ⟨i, hi⟩)

/-! ### What is in scope -/

/-- A tool of the document is in scope: without an entry point each is, with one those
are that the first workflow of the name reaches. -/
def ToolInScope (p : Package) (entry : Option String) (t : CwlProcess) : Prop :=
  t.processClass = .commandLineTool ∧ ∃ a, processAt p.processes a = some t ∧
    ∀ name, entry = some name →
      ∃ i, IsFirst (IsEntry name) p.processes i ∧ Reaches p.processes [i] a

/-- A workflow at the top is in scope: without an entry point each is, with one only the
first workflow of the name is. -/
def WorkflowInScope (p : Package) (entry : Option String) (w : CwlProcess) : Prop :=
  w.processClass = .workflow ∧ ∃ i, p.processes[i]? = some w ∧
    ∀ name, entry = some name → IsFirst (IsEntry name) p.processes i

/-- The entry point, if there is one, is the name of a workflow at the top. -/
def HasEntry (p : Package) (entry : Option String) : Prop :=
  ∀ name, entry = some name → ∃ w ∈ p.processes, IsEntry name w

theorem missing_select_eq_none_iff {entry : Option String} :
    (p.select entry).scope.missing = none ↔ p.HasEntry entry := by
  cases entry with
  | none => exact iff_of_true rfl fun _ h => nomatch h
  | some name =>
    by_cases h : ∃ w ∈ p.processes, IsEntry name w
    · obtain ⟨i, hi⟩ := exists_isFirst.mpr h
      obtain ⟨w, hw, -⟩ := hi.1
      rw [select_of_isFirst hi hw]
      refine iff_of_true rfl fun name' hname => ?_
      rw [Option.some.injEq] at hname
      exact hname ▸ h
    · rw [select_of_not_entry h]
      exact iff_of_false (by simp [Scope.missing]) fun hentry => h (hentry name rfl)

theorem mem_select_tools {entry : Option String} {t : CwlProcess} :
    t ∈ (p.select entry).tools ↔ p.ToolInScope entry t := by
  rw [(p.listed_select_tools entry).mem_iff]
  constructor
  · rintro ⟨a, ha, htool, hscope⟩
    exact ⟨htool, a, ha, hscope⟩
  · rintro ⟨htool, a, ha, hscope⟩
    exact ⟨a, ha, htool, hscope⟩

theorem mem_select_workflows {entry : Option String} :
    w ∈ (p.select entry).workflows ↔ p.WorkflowInScope entry w := by
  rw [(p.listed_select_workflows entry).mem_iff]
  constructor
  · rintro ⟨a, ha, hworkflow, i, rfl, hscope⟩
    exact ⟨hworkflow, i, (processAt_top ..).symm.trans ha, hscope⟩
  · rintro ⟨hworkflow, i, hi, hscope⟩
    exact ⟨[i], (processAt_top ..).trans hi, hworkflow, i, rfl, hscope⟩

/-- Where a tool or a workflow stands that is in scope: without an entry point anywhere, or
anywhere at the top; with one where the first workflow of the name leads, or stands itself. -/
def InScopeAt (p : Package) (entry : Option String) : ProcessClass → Place → Prop
  | .commandLineTool, a => ∀ name, entry = some name →
    ∃ i, IsFirst (IsEntry name) p.processes i ∧ Reaches p.processes [i] a
  | .workflow, a => ∃ i, a = [i] ∧ ∀ name, entry = some name → IsFirst (IsEntry name) p.processes i
  | _, _ => False

theorem InScopeAt.hasEntry {entry : Option String} {c : ProcessClass} {a : Place}
    (h : p.InScopeAt entry c a) : p.HasEntry entry := by
  intro name hname
  cases c with
  | commandLineTool =>
    obtain ⟨i, hi, -⟩ := h name hname
    exact exists_isFirst.mp ⟨i, hi⟩
  | workflow =>
    obtain ⟨i, -, hi⟩ := h
    exact exists_isFirst.mp ⟨i, hi name hname⟩
  | expressionTool => exact h.elim
  | operation => exact h.elim

end Package

/-- The processes of a class that are selected. -/
def Selection.ofClass (s : Selection) : ProcessClass → List CwlProcess
  | .commandLineTool => s.tools
  | .workflow => s.workflows
  | _ => []

namespace Package

/-- The processes of a class that are selected, by where they stand. -/
theorem listed_select_ofClass (p : Package) (entry : Option String) (c : ProcessClass) :
    Listed p.processes (fun a q => q.processClass = c ∧ p.InScopeAt entry c a)
      ((p.select entry).ofClass c) := by
  cases c with
  | commandLineTool => exact p.listed_select_tools entry
  | workflow => exact p.listed_select_workflows entry
  | expressionTool => exact ⟨[], .nil, by simp [InScopeAt], rfl⟩
  | operation => exact ⟨[], .nil, by simp [InScopeAt], rfl⟩

/-! ### The scope of an entry point -/

/-- **The scope of an entry point is exact.**  The tools selected by the name of a
workflow are those that the first workflow of that name reaches, each occurrence once
and in the order of the document.  The search for them ends on every graph, and no
reference leads it to a process declared in place: the only edge to such a process is
that from the process declaring it. -/
theorem listed_tools_of_entry (p : Package) (name : String)
    (h : ∃ w ∈ p.processes, w.processClass = .workflow ∧ w.localId = some name) :
    ∃ i, IsFirst (fun w => w.processClass = .workflow ∧ w.localId = some name) p.processes i ∧
      Listed p.processes (fun a t => t.processClass = .commandLineTool ∧
        Reaches p.processes [i] a) (p.select (some name)).tools ∧
      (∀ start rounds, p.callGraph.nodes.length + start.length < rounds →
        p.callGraph.visit rounds [] start = p.callGraph.closure start) ∧
      ∀ a j q n, a ≠ [] → processAt p.processes (a ++ [j]) = some q →
        (n, number p.processes (a ++ [j])) ∈ p.callGraph.edges → n = number p.processes a := by
  obtain ⟨i, hi⟩ := exists_isFirst.mpr h
  refine ⟨i, hi, listed_tools_of_isFirst hi, ?_, ?_⟩
  · intro start rounds hrounds
    exact CallGraph.visit_eq_of_le (proper_ofProcesses p.processes) start hrounds
  · intro a j q n ha hq hedge
    exact source_eq_of_edge_snoc ha hq hedge

/-- A process with nothing but a class, an identifier and steps. -/
def bare (c : ProcessClass) (id : String) (steps : List Step) : CwlProcess :=
  ⟨c, some id, none, none, none, none, none, none, steps, []⟩

/-- Two workflows that run each other, a name that two workflows and one that two tools
share, a reference to nothing, and one to a tool declared in place. -/
def tangled : Package where
  text := ""
  document :=
    { value := .null
      cwlVersion := none
      namespaces := []
      processes :=
        [ bare .workflow "#main"
            [⟨none, .reference "app.cwl#ring"⟩,
              ⟨none, .inline (bare .commandLineTool "#inner" [])⟩,
              ⟨none, .reference "lost.cwl"⟩]
        , bare .workflow "#main" [⟨none, .reference "#other"⟩]
        , bare .workflow "#ring"
            [⟨none, .reference "#main"⟩, ⟨none, .reference "#inner"⟩, ⟨none, .reference "#tool"⟩]
        , bare .commandLineTool "#tool" []
        , bare .commandLineTool "#tool" []
        , bare .commandLineTool "#other" []] }

theorem listed_tools_of_entry_tangled :
    (tangled.select (some "main")).tools.map CwlProcess.id = [some "#inner", some "#tool"] ∧
      ∃ i, IsFirst (fun w => w.processClass = .workflow ∧ w.localId = some "main")
          tangled.processes i ∧
        Listed tangled.processes (fun a t => t.processClass = .commandLineTool ∧
          Reaches tangled.processes [i] a) (tangled.select (some "main")).tools := by
  obtain ⟨i, hfirst, hlisted, -⟩ := listed_tools_of_entry tangled "main"
    ⟨_, List.mem_cons_self, rfl, by decide +kernel⟩
  exact ⟨by decide +kernel, i, hfirst, hlisted⟩

end Package

end CwlCompliance
