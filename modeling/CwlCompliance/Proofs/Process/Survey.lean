import CwlCompliance.Proofs.Process.Calls

/-!
# One pass over a document

The call graph can be made while the document is gone through once, in order.  A process gets the
next free number when it is met, and an edge to it when all that is declared inside it has been
met.  What a reference means is not known before the end, since it may mean a process further down,
so references are put aside with the number of the process that they are in.

## Main definitions

* `Survey` — what is known when a part of the document has been gone through.
* `Survey.addProcess`, `Survey.addTop` — how it grows.
* `Survey.graph` — the graph of a survey, in which the references are looked up.
* `Survey.Gains` — by what a survey has grown.

## Main results

* `Survey.gains_addProcess` — a process adds what is declared in it, each once and in order.
* `Survey.foldl_addTop` — what all processes at the top add.
* `Survey.graph_ofProcesses` — one pass makes the call graph.
* `CallGraph.depicts_document` — **a node for each process, once and in order, and an edge for each
  step that runs one.**
-/

namespace CwlCompliance

/-! ### Surveys -/

/-- What is known of a document when a part of it has been gone through. -/
structure Survey where
  /-- The processes met, in order. -/
  nodes : List CwlProcess := []
  /-- The edges from processes to those that they declare in place. -/
  edges : List (ℕ × ℕ) := []
  /-- The references met, each with the number of the process that it is in. -/
  references : List (ℕ × String) := []
  /-- The local names met at the top, each with the number of the first process that has it. -/
  names : List (String × ℕ) := []

namespace Survey

mutual

/-- A survey with a process gone through. -/
def addProcess : Survey → CwlProcess → Survey
  | v, p@⟨_, _, _, _, _, _, _, _, steps, _⟩ =>
    addSteps v.nodes.length { v with nodes := v.nodes ++ [p] } steps

/-- A survey with steps gone through, of the process with number `owner`. -/
def addSteps (owner : ℕ) : Survey → List Step → Survey
  | v, [] => v
  | v, ⟨_, target⟩ :: rest => addSteps owner (addTarget owner v target) rest

/-- A survey with a target gone through, in a step of the process with number `owner`. -/
def addTarget (owner : ℕ) : Survey → Target → Survey
  | v, .unspecified => v
  | v, .reference locator => { v with references := v.references ++ [(owner, locator)] }
  | v, .inline p =>
    let w := addProcess v p
    { w with edges := w.edges ++ [(owner, v.nodes.length)] }

end

/-- A survey with the local name of the process with number `n`, unless it was met before. -/
def addName (v : Survey) (n : ℕ) : Option String → Survey
  | none => v
  | some name =>
    if (v.names.lookup name).isSome then v else { v with names := v.names ++ [(name, n)] }

/-- A survey with a process at the top gone through. -/
def addTop (v : Survey) (p : CwlProcess) : Survey :=
  (v.addProcess p).addName v.nodes.length p.localId

/-- The edges of a survey when the references mean what `find` says. -/
def edgesWith (find : String → Option ℕ) (v : Survey) : List (ℕ × ℕ) :=
  v.edges ++ v.references.filterMap fun x => (find x.2).map fun n => (x.1, n)

/-- The graph of a survey, in which a reference means the process met with its local name. -/
def graph (v : Survey) : CallGraph where
  nodes := v.nodes
  edges := v.edgesWith fun locator => v.names.lookup (localName locator)

/-- The survey of the processes at the top of a document. -/
def ofProcesses (ps : List CwlProcess) : Survey := ps.foldl addTop {}

/-! ### What a process adds -/

variable {find : String → Option ℕ} {u v w : Survey}

/-- A survey has grown by some processes and edges, and no name. -/
structure Gains (find : String → Option ℕ) (v w : Survey) (nodes : List CwlProcess)
    (edges : List (ℕ × ℕ)) : Prop where
  /-- The processes come last. -/
  nodes : w.nodes = v.nodes ++ nodes
  /-- The edges come in some order, those of references being put aside. -/
  edges : (w.edgesWith find).Perm (v.edgesWith find ++ edges)
  /-- The names are the same. -/
  names : w.names = v.names

theorem Gains.refl (v : Survey) : Gains find v v [] [] where
  nodes := (List.append_nil _).symm
  edges := .of_eq (List.append_nil _).symm
  names := rfl

theorem Gains.trans {nodes nodes' : List CwlProcess} {edges edges' : List (ℕ × ℕ)}
    (h : Gains find u v nodes edges) (h' : Gains find v w nodes' edges') :
    Gains find u w (nodes ++ nodes') (edges ++ edges') where
  nodes := by rw [h'.nodes, h.nodes, List.append_assoc]
  edges := by
    rw [← List.append_assoc]
    exact h'.edges.trans (h.edges.append_right _)
  names := h'.names.trans h.names

theorem gains_addTarget {t : Target} (h : ∀ q, t = .inline q → ∀ v,
    Gains find v (v.addProcess q) q.occurrences (CallGraph.edgesOf find v.nodes.length q))
    (owner : ℕ) (v : Survey) : Gains find v (addTarget owner v t)
      (CwlProcess.targetOccurrences t) (CallGraph.edgesOfTarget find owner v.nodes.length t) := by
  cases t with
  | unspecified =>
    simp only [addTarget, CwlProcess.targetOccurrences, CallGraph.edgesOfTarget]
    exact .refl v
  | reference locator =>
    simp only [addTarget, CwlProcess.targetOccurrences, CallGraph.edgesOfTarget]
    refine ⟨(List.append_nil _).symm, .of_eq ?_, rfl⟩
    rw [edgesWith, edgesWith, List.filterMap_append, List.append_assoc]
    cases hn : find locator <;> simp [hn]
  | inline q =>
    simp only [addTarget, CwlProcess.targetOccurrences, CallGraph.edgesOfTarget]
    obtain ⟨hnodes, hedges, hnames⟩ := h q rfl v
    refine ⟨hnodes, ?_, hnames⟩
    -- the edge to the process declared in place comes after those inside it
    have hlast : (edgesWith find { v.addProcess q with
        edges := (v.addProcess q).edges ++ [(owner, v.nodes.length)] }).Perm
          ((owner, v.nodes.length) :: (v.addProcess q).edgesWith find) := by
      rw [edgesWith, List.append_assoc]
      exact List.perm_middle
    exact hlast.trans ((hedges.cons _).trans List.perm_middle.symm)

theorem gains_addSteps {steps : List Step} (h : ∀ s ∈ steps, ∀ q, s.run = .inline q → ∀ v,
    Gains find v (v.addProcess q) q.occurrences (CallGraph.edgesOf find v.nodes.length q))
    (owner : ℕ) : ∀ v, Gains find v (addSteps owner v steps) (steps.flatMap Step.declared)
      (CallGraph.edgesOfSteps find owner v.nodes.length steps) := by
  induction steps with
  | nil =>
    intro v
    rw [addSteps, CallGraph.edgesOfSteps]
    exact .refl v
  | cons s rest ih =>
    intro v
    rw [List.forall_mem_cons] at h
    have hfirst := gains_addTarget h.1 owner v
    have hrest := ih h.2 (addTarget owner v s.run)
    -- the rest counts on from what the first step has added
    rw [hfirst.nodes, List.length_append] at hrest
    rw [CallGraph.edgesOfSteps_cons, List.flatMap_cons]
    cases s
    rw [addSteps]
    exact hfirst.trans hrest

/-- A process adds itself and what is declared in it, each once and in order, and its edges. -/
theorem gains_addProcess (find : String → Option ℕ) (p : CwlProcess) : ∀ v,
    Gains find v (v.addProcess p) p.occurrences (CallGraph.edgesOf find v.nodes.length p) := by
  induction p using CwlProcess.inline_induction with
  | h p ih =>
    intro v
    have hself : Gains find v { v with nodes := v.nodes ++ [p] } [p] [] :=
      ⟨rfl, .of_eq (List.append_nil _).symm, rfl⟩
    have hsteps := gains_addSteps ih v.nodes.length { v with nodes := v.nodes ++ [p] }
    rw [List.length_append] at hsteps
    have hall := hself.trans hsteps
    rw [CwlProcess.occurrences_eq]
    cases p
    rw [addProcess, CallGraph.edgesOf]
    exact hall

/-! ### What a document adds -/

theorem nodes_addName (v : Survey) (n : ℕ) (id : Option String) :
    (v.addName n id).nodes = v.nodes := by
  cases id with
  | none => rfl
  | some name =>
    rw [addName]
    split <;> rfl

theorem edgesWith_addName (v : Survey) (n : ℕ) (id : Option String) :
    (v.addName n id).edgesWith find = v.edgesWith find := by
  cases id with
  | none => rfl
  | some name =>
    rw [addName]
    split <;> rfl

/-- A name keeps the number that it was met with first. -/
theorem lookup_addName (v : Survey) (n : ℕ) (id : Option String) (name : String) :
    (v.addName n id).names.lookup name =
      (v.names.lookup name).or (if id == some name then some n else none) := by
  cases id with
  | none => simp [addName]
  | some name' =>
    rw [addName]
    by_cases hname : name' = name
    · subst hname
      cases hlookup : v.names.lookup name' <;> simp [hlookup, List.lookup_append]
    · have hother : [(name', n)].lookup name = none := by
        rw [List.lookup_cons, beq_false_of_ne (Ne.symm hname)]
        rfl
      split <;> simp [hname, List.lookup_append, hother]

/-- What the processes at the top add, one after the other. -/
theorem foldl_addTop (find : String → Option ℕ) (ps : List CwlProcess) : ∀ v : Survey,
    (ps.foldl addTop v).nodes = v.nodes ++ ps.flatMap CwlProcess.occurrences ∧
      ((ps.foldl addTop v).edgesWith find).Perm (v.edgesWith find ++
        (CallGraph.numbered v.nodes.length ps).flatMap fun t => CallGraph.edgesOf find t.1 t.2) ∧
      ∀ name, (ps.foldl addTop v).names.lookup name = (v.names.lookup name).or
        (((CallGraph.numbered v.nodes.length ps).find? fun t => t.2.localId == some name).map
          Prod.fst) := by
  induction ps with
  | nil => intro v; simp [CallGraph.numbered]
  | cons p ps ih =>
    intro v
    obtain ⟨hnodes, hedges, hnames⟩ := gains_addProcess find p v
    obtain ⟨ihnodes, ihedges, ihnames⟩ := ih (v.addTop p)
    have hlength : (v.addTop p).nodes.length = v.nodes.length + p.occurrences.length := by
      rw [addTop, nodes_addName, hnodes, List.length_append]
    rw [hlength] at ihedges ihnames
    rw [List.foldl_cons, CallGraph.numbered]
    refine ⟨?_, ?_, fun name => ?_⟩
    · rw [ihnodes, addTop, nodes_addName, hnodes, List.flatMap_cons, List.append_assoc]
    · rw [List.flatMap_cons, ← List.append_assoc]
      refine ihedges.trans (List.Perm.append_right _ ?_)
      rw [addTop, edgesWith_addName]
      exact hedges
    · rw [ihnames, addTop, lookup_addName, hnames, Option.or_assoc, List.find?_cons]
      cases h : p.localId == some name <;> simp

/-- **One pass makes the call graph**: the survey of a document has the same nodes in the same
order, and the same edges. -/
theorem graph_ofProcesses (ps : List CwlProcess) :
    (ofProcesses ps).graph.nodes = (CallGraph.ofProcesses ps).nodes ∧
      (ofProcesses ps).graph.edges.Perm (CallGraph.ofProcesses ps).edges := by
  -- at the end a name means the first process at the top that has it
  have hfind : (fun locator => (ofProcesses ps).names.lookup (localName locator)) =
      CallGraph.resolve? (CallGraph.numbered 0 ps) := by
    funext locator
    obtain ⟨-, -, hnames⟩ := foldl_addTop (fun _ => none) ps {}
    exact hnames (localName locator)
  obtain ⟨hnodes, hedges, -⟩ := foldl_addTop (CallGraph.resolve? (CallGraph.numbered 0 ps)) ps {}
  refine ⟨hnodes, ?_⟩
  rw [graph, hfind]
  exact hedges

end Survey

/-! ### The graph of a document -/

namespace CallGraph

/-- **The call graph of a document** has a node for each process, at the top or declared in place
at any depth, once and in the order of the document, and an edge for each step that runs a process:
from the process that the step is of to the one that it declares in place, or to the first process
at the top with the name that it refers to, wherever this stands.  A step with a reference has no
edge only if no process at the top has the name.  One pass over the document makes the same graph.
So all tools of the document are listed, each once and in order, whether or not anything runs
them. -/
theorem depicts_document (ps : List CwlProcess) : ∃ places calls,
    (ofProcesses ps).Depicts ps places calls ∧
    (Survey.ofProcesses ps).graph.Depicts ps places calls ∧
    (∀ a p k s locator, processAt ps a = some p → p.steps[k]? = some s →
      s.run = .reference locator →
        ((∃ b, ⟨a, k, b⟩ ∈ calls) ↔ ∃ t ∈ ps, t.localId = some (localName locator))) ∧
    Listed ps (fun _ t => t.processClass = .commandLineTool) (ofProcesses ps).tools := by
  obtain ⟨places, calls, hdepicts⟩ := exists_depicts ps
  obtain ⟨hnodes, hedges⟩ := Survey.graph_ofProcesses ps
  refine ⟨places, calls, hdepicts, hdepicts.of_perm hnodes hedges, ?_, hdepicts.listed_tools⟩
  intro a p k s locator hp hs hrun
  simp only [hdepicts.everyCall.mem_iff]
  exact exists_calls_reference_iff hp hs hrun

/-- A process with nothing but a class, an identifier and what its steps run. -/
def outline (c : ProcessClass) (id : String) (targets : List Target) : CwlProcess :=
  ⟨c, some id, none, none, none, none, none, none, targets.map fun t => ⟨none, t⟩, []⟩

/-- A workflow that runs a tool further down, twice, a workflow declared in place and itself; the
workflow declared in place runs the one around it and something that is not there.  A second tool
has the name of the first, and a third is run by nothing. -/
def looped : List CwlProcess :=
  [ outline .workflow "#main" [.reference "#late",
      .inline (outline .workflow "#inner" [.reference "app.cwl#main", .reference "lost.cwl"]),
      .unspecified, .reference "#late", .reference "#main"]
  , outline .commandLineTool "#late" []
  , outline .commandLineTool "#late" []
  , outline .commandLineTool "#orphan" [] ]

theorem depicts_document_looped :
    (ofProcesses looped).edges = [(0, 2), (0, 1), (1, 0), (0, 2), (0, 0)] ∧
    (Survey.ofProcesses looped).graph.edges = [(0, 1), (0, 2), (1, 0), (0, 2), (0, 0)] ∧
    (ofProcesses looped).tools.map CwlProcess.id =
      [some "#late", some "#late", some "#orphan"] ∧
    ∃ places calls, (ofProcesses looped).Depicts looped places calls ∧
      (Survey.ofProcesses looped).graph.Depicts looped places calls ∧
      (∃ b, ⟨[0], 3, b⟩ ∈ calls) ∧ ¬∃ b, ⟨[0, 1], 1, b⟩ ∈ calls := by
  obtain ⟨places, calls, hgraph, hsurvey, hreference, -⟩ := depicts_document looped
  refine ⟨by decide +kernel, by decide +kernel, by decide +kernel, places, calls, hgraph, hsurvey,
    ?_, ?_⟩
  · rw [hreference [0] _ 3 _ "#late" rfl rfl rfl]
    decide +kernel
  · rw [hreference [0, 1] _ 1 _ "lost.cwl" rfl rfl rfl]
    decide +kernel

end CallGraph

end CwlCompliance
