import CwlCompliance.Proofs.Process.Search

/-!
# Steps that run a process

The call graph has a node for each place where a process stands and an edge for each step that runs
a process.  Two steps of a process that run the same one make two edges, so it is not enough to know
between which nodes there are edges: the steps are listed, each once, and the edges counted off
against them.

## Main definitions

* `Calls ps a k b` — the step at position `k` of the process at `a` runs the process at `b`.
* `EveryPlace`, `EveryCall` — lists of all places, and of all steps that run a process.
* `CallGraph.Depicts` — a graph with a node for each place and an edge for each such step.

## Main results

* `CallGraph.perm_edges` — the edges of the graph, node by node.
* `EveryPlace.map_number` — the node with number `n` is what stands at the place that is the `n`-th
  in the order of the document.
* `CallGraph.exists_depicts` — the call graph depicts its document.
* `CallGraph.Depicts.listed_tools` — what such a graph says about the tools.
-/

namespace CwlCompliance

/-! ### What a step runs -/

/-- The step at position `k` of the process at one place runs the process at another. -/
inductive Calls (ps : List CwlProcess) : Place → ℕ → Place → Prop
  /-- The step declares the process in place. -/
  | inline {a : Place} {p q : CwlProcess} {s : Step} {k : ℕ}
      (stands : processAt ps a = some p) (step : p.steps[k]? = some s)
      (run : s.run = .inline q) : Calls ps a k (a ++ [k])
  /-- The step refers to the process: the first at the top with the local name of the reference,
  before the step or after it. -/
  | reference {a : Place} {p : CwlProcess} {s : Step} {k : ℕ} {locator : String} {j : ℕ}
      (stands : processAt ps a = some p) (step : p.steps[k]? = some s)
      (run : s.run = .reference locator)
      (first : IsFirst (fun t => t.localId = some (localName locator)) ps j) : Calls ps a k [j]

section Steps

variable {ps : List CwlProcess} {a b : Place} {p : CwlProcess} {s : Step} {k : ℕ}

theorem Calls.exists_step (h : Calls ps a k b) :
    ∃ p s, processAt ps a = some p ∧ p.steps[k]? = some s := by
  cases h with
  | inline stands step _ => exact ⟨_, _, stands, step⟩
  | reference stands step _ _ => exact ⟨_, _, stands, step⟩

theorem Calls.runs (h : Calls ps a k b) : Runs ps a b := by
  cases h with
  | inline stands step run => exact .inline stands step run
  | reference stands step run first =>
    exact .reference stands (List.mem_of_getElem? step) run first

/-- A reference runs something exactly when some process at the top has its local name. -/
theorem exists_calls_reference_iff {locator : String} (hp : processAt ps a = some p)
    (hs : p.steps[k]? = some s) (hrun : s.run = .reference locator) :
    (∃ b, Calls ps a k b) ↔ ∃ t ∈ ps, t.localId = some (localName locator) := by
  rw [← exists_isFirst]
  constructor
  · rintro ⟨b, h⟩
    cases h with
    | inline stands step run =>
      obtain rfl := Option.some.inj (hp.symm.trans stands)
      obtain rfl := Option.some.inj (hs.symm.trans step)
      exact nomatch hrun.symm.trans run
    | reference stands step run first =>
      obtain rfl := Option.some.inj (hp.symm.trans stands)
      obtain rfl := Option.some.inj (hs.symm.trans step)
      obtain rfl := Target.reference.inj (hrun.symm.trans run)
      exact ⟨_, first⟩
  · rintro ⟨j, hj⟩
    exact ⟨[j], .reference hp hs hrun hj⟩

/-- The position of the first process at the top with a local name. -/
def named? (ps : List CwlProcess) (name : String) : Option ℕ :=
  ps.findIdx? fun t => t.localId == some name

theorem named?_eq_some {name : String} {j : ℕ} :
    named? ps name = some j ↔ IsFirst (fun t => t.localId = some name) ps j := by
  rw [named?, findIdx?_eq_some_iff_isFirst]
  simp only [beq_iff_eq]

/-- Where a target leads that stands in a step of the process at a place. -/
def callee? (ps : List CwlProcess) (a : Place) (k : ℕ) : Target → Option Place
  | .unspecified => none
  | .reference locator => (named? ps (localName locator)).map fun j => [j]
  | .inline _ => some (a ++ [k])

theorem callee?_eq_some (hp : processAt ps a = some p) (hs : p.steps[k]? = some s) :
    callee? ps a k s.run = some b ↔ Calls ps a k b := by
  constructor
  · intro h
    cases hrun : s.run with
    | unspecified =>
      rw [hrun] at h
      cases h
    | reference locator =>
      rw [hrun, callee?, Option.map_eq_some_iff] at h
      obtain ⟨j, hj, rfl⟩ := h
      exact .reference hp hs hrun (named?_eq_some.mp hj)
    | inline q =>
      rw [hrun, callee?, Option.some.injEq] at h
      subst h
      exact .inline hp hs hrun
  · intro h
    cases h with
    | inline stands step run =>
      obtain rfl := Option.some.inj (hp.symm.trans stands)
      obtain rfl := Option.some.inj (hs.symm.trans step)
      rw [run]
      rfl
    | reference stands step run first =>
      obtain rfl := Option.some.inj (hp.symm.trans stands)
      obtain rfl := Option.some.inj (hs.symm.trans step)
      rw [run, callee?, named?_eq_some.mpr first]
      rfl

end Steps

/-! ### The edges, node by node -/

namespace CallGraph

variable {find : String → Option ℕ} {ps : List CwlProcess} {a : Place} {p : CwlProcess} {k : ℕ}

/-- The edge that a target makes itself in a step of process `owner`, the next process inside
having number `next`. -/
def stepEdge (find : String → Option ℕ) (owner next : ℕ) : Target → Option (ℕ × ℕ)
  | .unspecified => none
  | .reference locator => (find locator).map fun n => (owner, n)
  | .inline _ => some (owner, next)

/-- The edges that the steps of process `owner` make themselves, without those made inside it. -/
def ownEdges (find : String → Option ℕ) (owner next : ℕ) (steps : List Step) : List (ℕ × ℕ) :=
  steps.zipIdx.filterMap fun x =>
    stepEdge find owner (next + partStart Step.declared steps x.2) x.1.run

/-- The edges that numbered processes make themselves, one process after the other. -/
def edgesEach (find : String → Option ℕ) (nodes : List (CwlProcess × ℕ)) : List (ℕ × ℕ) :=
  nodes.flatMap fun x => ownEdges find x.2 (x.2 + 1) x.1.steps

theorem ownEdges_cons (owner next : ℕ) (s : Step) (rest : List Step) :
    ownEdges find owner next (s :: rest) = (stepEdge find owner next s.run).toList ++
      ownEdges find owner (next + s.declared.length) rest := by
  -- for the rest, positions count from one, and numbers from behind what the first step declares
  have hrest : (rest.zipIdx 1).filterMap (fun x =>
      stepEdge find owner (next + partStart Step.declared (s :: rest) x.2) x.1.run) =
        ownEdges find owner (next + s.declared.length) rest := by
    rw [List.zipIdx_succ, List.filterMap_map, ownEdges]
    refine List.filterMap_congr fun x _ => ?_
    rw [Function.comp_apply, partStart_cons_succ, Nat.add_assoc]
  rw [ownEdges, List.zipIdx_cons, ← hrest]
  cases h : stepEdge find owner next s.run with
  | none =>
    rw [List.filterMap_cons_none (by simpa using h)]
    rfl
  | some e =>
    rw [List.filterMap_cons_some (by simpa using h)]
    rfl

/-- The edges of a target are its own and those made inside what it declares. -/
theorem perm_edgesOfTarget {t : Target} (h : ∀ q, t = .inline q → ∀ n,
    (edgesOf find n q).Perm (edgesEach find (q.occurrences.zipIdx n))) (owner next : ℕ) :
      (edgesOfTarget find owner next t).Perm ((stepEdge find owner next t).toList ++
        edgesEach find ((CwlProcess.targetOccurrences t).zipIdx next)) := by
  cases t with
  | unspecified =>
    rw [edgesOfTarget, CwlProcess.targetOccurrences]
    exact .refl _
  | reference locator =>
    rw [edgesOfTarget, CwlProcess.targetOccurrences]
    exact .of_eq (List.append_nil _).symm
  | inline q =>
    rw [edgesOfTarget, CwlProcess.targetOccurrences]
    exact (h q rfl next).cons _

/-- The edges of steps are their own, and then those made inside what they declare. -/
theorem perm_edgesOfSteps {steps : List Step} (h : ∀ s ∈ steps, ∀ q, s.run = .inline q → ∀ n,
    (edgesOf find n q).Perm (edgesEach find (q.occurrences.zipIdx n))) : ∀ owner next,
      (edgesOfSteps find owner next steps).Perm (ownEdges find owner next steps ++
        edgesEach find ((steps.flatMap Step.declared).zipIdx next)) := by
  induction steps with
  | nil =>
    intro owner next
    rw [edgesOfSteps]
    exact .refl _
  | cons s rest ih =>
    intro owner next
    rw [List.forall_mem_cons] at h
    rw [edgesOfSteps_cons, ownEdges_cons, List.flatMap_cons, List.zipIdx_append, edgesEach,
      List.flatMap_append]
    refine ((perm_edgesOfTarget h.1 owner next).append (ih h.2 owner _)).trans ?_
    rw [List.append_assoc, List.append_assoc]
    -- what is made inside the first step moves behind what the other steps make themselves
    exact (List.perm_append_comm_assoc _ _ _).append_left _

theorem perm_edgesOf (p : CwlProcess) : ∀ n,
    (edgesOf find n p).Perm (edgesEach find (p.occurrences.zipIdx n)) := by
  induction p using CwlProcess.inline_induction with
  | h p ih =>
    intro n
    have hsteps : edgesOf find n p = edgesOfSteps find n (n + 1) p.steps := by
      cases p
      rw [edgesOf]
    rw [hsteps, CwlProcess.occurrences_eq, List.zipIdx_cons]
    exact perm_edgesOfSteps ih n (n + 1)

theorem perm_edgesOf_numbered (ps : List CwlProcess) : ∀ n,
    ((numbered n ps).flatMap fun t => edgesOf find t.1 t.2).Perm
      (edgesEach find ((ps.flatMap CwlProcess.occurrences).zipIdx n)) := by
  induction ps with
  | nil => exact fun _ => .refl _
  | cons p ps ih =>
    intro n
    rw [numbered, List.flatMap_cons, List.flatMap_cons, List.zipIdx_append, edgesEach,
      List.flatMap_append]
    exact (perm_edgesOf p n).append (ih _)

/-- **The edges of the graph** are, but for their order, those that its nodes make themselves, one
node after the other. -/
theorem perm_edges (ps : List CwlProcess) : (ofProcesses ps).edges.Perm
    (edgesEach (resolve? (numbered 0 ps)) (ofProcesses ps).nodes.zipIdx) :=
  perm_edgesOf_numbered ps 0

theorem resolve?_eq (ps : List CwlProcess) (locator : String) : resolve? (numbered 0 ps) locator =
    (named? ps (localName locator)).map fun j => number ps [j] := by
  ext n
  rw [resolve?_eq_some, Option.map_eq_some_iff]
  simp only [named?_eq_some, eq_comm]

/-- The edge of a step joins the numbers of two places. -/
theorem stepEdge_eq {s : Step} (hp : processAt ps a = some p) (hs : p.steps[k]? = some s) :
    stepEdge (resolve? (numbered 0 ps)) (number ps a)
        (number ps a + 1 + partStart Step.declared p.steps k) s.run =
      (callee? ps a k s.run).map fun b => (number ps a, number ps b) := by
  cases hrun : s.run with
  | unspecified => rfl
  | reference locator =>
    rw [stepEdge, resolve?_eq, callee?, Option.map_map, Option.map_map]
    rfl
  | inline q =>
    rw [stepEdge, callee?, ← number_snoc hp (CwlProcess.child?_eq_some.mpr ⟨s, hs, hrun⟩)]
    rfl

end CallGraph

/-! ### All places -/

/-- `places` are the places of a document where a process stands, in order and none twice. -/
structure EveryPlace (ps : List CwlProcess) (places : List Place) : Prop where
  /-- They come in the order of the document. -/
  sorted : places.Pairwise (· < ·)
  /-- A process stands at each of them, and nowhere else. -/
  mem_iff : ∀ a, a ∈ places ↔ ∃ p, processAt ps a = some p

namespace EveryPlace

variable {ps : List CwlProcess} {places : List Place} {a : Place}

/-- The places have the numbers from zero on. -/
theorem map_number (h : EveryPlace ps places) :
    places.map (number ps) = List.range (CallGraph.ofProcesses ps).nodes.length := by
  have hincreasing : (places.map (number ps)).Pairwise (· < ·) := by
    rw [List.pairwise_map]
    refine h.sorted.imp_of_mem fun {a b} ha hb hab => ?_
    obtain ⟨p, hp⟩ := (h.mem_iff a).mp ha
    obtain ⟨q, hq⟩ := (h.mem_iff b).mp hb
    exact number_lt_number hp hq hab
  -- both lists increase, so they are the same when they have the same numbers
  refine hincreasing.eq_of_mem_iff List.pairwise_lt_range fun n => ?_
  rw [List.mem_map, List.mem_range]
  constructor
  · rintro ⟨a, ha, rfl⟩
    obtain ⟨p, hp⟩ := (h.mem_iff a).mp ha
    exact (List.getElem?_eq_some_iff.mp (getElem?_nodes_number hp)).1
  · intro hn
    obtain ⟨a, p, hp, rfl⟩ := exists_number hn
    exact ⟨a, (h.mem_iff a).mpr ⟨p, hp⟩, rfl⟩

/-- The number of a place is how many places come before it. -/
theorem idxOf_eq_number (h : EveryPlace ps places) (ha : a ∈ places) :
    places.idxOf a = number ps a := by
  have hlt := List.idxOf_lt_length_of_mem ha
  have hget : (places.map (number ps))[places.idxOf a]? = some (number ps a) := by
    rw [List.getElem?_map, List.getElem?_eq_getElem hlt, List.getElem_idxOf hlt]
    rfl
  rw [h.map_number, List.getElem?_eq_some_iff] at hget
  obtain ⟨hlt', hget⟩ := hget
  rwa [List.getElem_range] at hget

end EveryPlace

theorem exists_everyPlace (ps : List CwlProcess) : ∃ places, EveryPlace ps places ∧
    places.map (processAt ps) = (CallGraph.ofProcesses ps).nodes.map some := by
  obtain ⟨places, hsorted, hmem, hmap⟩ := listed_filter_nodes ps fun _ _ => true
  rw [List.filter_true, List.zipIdx_map_fst] at hmap
  exact ⟨places, ⟨hsorted, by simpa only [and_true] using hmem⟩, hmap⟩

/-! ### All calls -/

/-- A step that runs a process. -/
structure Call where
  /-- Where the process stands that the step is of. -/
  caller : Place
  /-- The position of the step. -/
  step : ℕ
  /-- Where the process stands that the step runs. -/
  callee : Place

/-- `calls` are the steps of a document that run a process, each once. -/
structure EveryCall (ps : List CwlProcess) (calls : List Call) : Prop where
  /-- No step comes twice. -/
  nodup : (calls.map fun c => (c.caller, c.step)).Nodup
  /-- They are steps that run a process, and all of them. -/
  mem_iff : ∀ c : Call, c ∈ calls ↔ Calls ps c.caller c.step c.callee

section Calls

variable {ps : List CwlProcess} {places : List Place} {a : Place}

/-- What the steps of the process at a place run. -/
def callsFrom (ps : List CwlProcess) (a : Place) : List Call :=
  (processAt ps a).elim [] fun p => p.steps.zipIdx.filterMap fun x =>
    (callee? ps a x.2 x.1.run).map fun b => ⟨a, x.2, b⟩

theorem mem_callsFrom {c : Call} :
    c ∈ callsFrom ps a ↔ c.caller = a ∧ Calls ps c.caller c.step c.callee := by
  obtain ⟨caller, k, b⟩ := c
  cases hp : processAt ps a with
  | none =>
    refine iff_of_false (by simp [callsFrom, hp]) ?_
    rintro ⟨rfl, h⟩
    obtain ⟨p, -, hat, -⟩ := h.exists_step
    exact nomatch hp.symm.trans hat
  | some p =>
    rw [callsFrom, hp, Option.elim_some, List.mem_filterMap]
    simp only [Option.map_eq_some_iff, Call.mk.injEq]
    constructor
    · rintro ⟨⟨s, k⟩, hs, b, hb, rfl, rfl, rfl⟩
      exact ⟨rfl, (callee?_eq_some hp (List.mem_zipIdx_iff_getElem?.mp hs)).mp hb⟩
    · rintro ⟨rfl, h⟩
      obtain ⟨p', s, hp', hs⟩ := h.exists_step
      obtain rfl := Option.some.inj (hp.symm.trans hp')
      exact ⟨(s, k), List.mem_zipIdx_iff_getElem?.mpr hs, b, (callee?_eq_some hp hs).mpr h,
        rfl, rfl, rfl⟩

theorem nodup_callsFrom (ps : List CwlProcess) (a : Place) :
    ((callsFrom ps a).map fun c => (c.caller, c.step)).Nodup := by
  cases hp : processAt ps a with
  | none => simp [callsFrom, hp]
  | some p =>
    rw [callsFrom, hp, Option.elim_some, List.map_filterMap, List.Nodup, List.pairwise_filterMap]
    refine (pairwise_zipIdx p.steps).imp ?_
    intro x y hlt c hc d hd
    simp only [Option.map_map, Option.map_eq_some_iff] at hc hd
    obtain ⟨-, -, rfl⟩ := hc
    obtain ⟨-, -, rfl⟩ := hd
    intro h
    exact absurd (congrArg Prod.snd h) (ne_of_lt hlt)

/-- What is run from each place, one place after the other, is all that is run. -/
theorem EveryPlace.everyCall (h : EveryPlace ps places) :
    EveryCall ps (places.flatMap (callsFrom ps)) where
  nodup := by
    rw [List.map_flatMap, List.nodup_flatMap]
    -- steps at different places differ in their callers
    refine ⟨fun a _ => nodup_callsFrom ps a, h.sorted.imp fun {a b} hab x hx hy => ?_⟩
    obtain ⟨c, hc, rfl⟩ := List.mem_map.mp hx
    obtain ⟨d, hd, hcd⟩ := List.mem_map.mp hy
    rw [Prod.mk.injEq, (mem_callsFrom.mp hc).1, (mem_callsFrom.mp hd).1] at hcd
    exact absurd hcd.1.symm (ne_of_lt hab)
  mem_iff c := by
    rw [List.mem_flatMap]
    constructor
    · rintro ⟨a, -, hc⟩
      exact (mem_callsFrom.mp hc).2
    · intro hc
      exact ⟨c.caller, (h.mem_iff _).mpr hc.runs.source, mem_callsFrom.mpr ⟨rfl, hc⟩⟩

end Calls

/-! ### The graph of a document -/

namespace CallGraph

variable {g g' : CallGraph} {ps : List CwlProcess} {places : List Place} {calls : List Call}
  {a : Place} {p : CwlProcess}

/-- A graph depicts a document: it has one node for each process, in the order of the document, and
one edge for each step that runs a process. -/
structure Depicts (g : CallGraph) (ps : List CwlProcess) (places : List Place)
    (calls : List Call) : Prop where
  /-- The places are all where a process stands, in the order of the document. -/
  everyPlace : EveryPlace ps places
  /-- The calls are all steps that run a process, each once. -/
  everyCall : EveryCall ps calls
  /-- The nodes are what stands at the places, one for each. -/
  nodes : places.map (processAt ps) = g.nodes.map some
  /-- The edges are those of the calls, one for each: from the node of the caller to the node of
  the callee. -/
  edges : g.edges.Perm (calls.map fun c => (places.idxOf c.caller, places.idxOf c.callee))

theorem ownEdges_eq (hp : processAt ps a = some p) :
    ownEdges (resolve? (numbered 0 ps)) (number ps a) (number ps a + 1) p.steps =
      (callsFrom ps a).map fun c => (number ps c.caller, number ps c.callee) := by
  rw [callsFrom, hp, Option.elim_some, List.map_filterMap, ownEdges]
  refine List.filterMap_congr fun x hx => ?_
  rw [stepEdge_eq hp (List.mem_zipIdx_iff_getElem?.mp hx), Option.map_map]
  rfl

/-- What the nodes of the graph make themselves is what is run from the places. -/
theorem edgesEach_nodes (h : EveryPlace ps places)
    (hmap : places.map (processAt ps) = (ofProcesses ps).nodes.map some) :
    edgesEach (resolve? (numbered 0 ps)) (ofProcesses ps).nodes.zipIdx =
      (places.flatMap (callsFrom ps)).map fun c => (number ps c.caller, number ps c.callee) := by
  have hnodes : (ofProcesses ps).nodes.zipIdx.map (fun x => (some x.1, x.2)) =
      places.map fun a => (processAt ps a, number ps a) := by
    calc
      (ofProcesses ps).nodes.zipIdx.map (fun x => (some x.1, x.2))
          = ((ofProcesses ps).nodes.map some).zip (List.range (ofProcesses ps).nodes.length) := by
        rw [List.zipIdx_eq_zip_range', ← List.range_eq_range', List.zip_map_left]
        rfl
      _ = (places.map (processAt ps)).zip (places.map (number ps)) := by rw [hmap, h.map_number]
      _ = places.map fun a => (processAt ps a, number ps a) := List.zip_map'
  calc
    edgesEach (resolve? (numbered 0 ps)) (ofProcesses ps).nodes.zipIdx
        = ((ofProcesses ps).nodes.zipIdx.map fun x => (some x.1, x.2)).flatMap fun y =>
            y.1.elim [] fun p => ownEdges (resolve? (numbered 0 ps)) y.2 (y.2 + 1) p.steps := by
      rw [List.flatMap_map]
      rfl
    _ = places.flatMap fun a =>
          (callsFrom ps a).map fun c => (number ps c.caller, number ps c.callee) := by
      rw [hnodes, List.flatMap_map]
      refine List.flatMap_congr fun a ha => ?_
      obtain ⟨p, hp⟩ := (h.mem_iff a).mp ha
      rw [hp, Option.elim_some, ownEdges_eq hp]
    _ = (places.flatMap (callsFrom ps)).map fun c => (number ps c.caller, number ps c.callee) :=
      List.map_flatMap.symm

/-- **The call graph depicts its document.** -/
theorem exists_depicts (ps : List CwlProcess) :
    ∃ places calls, (ofProcesses ps).Depicts ps places calls := by
  obtain ⟨places, hplaces, hmap⟩ := exists_everyPlace ps
  refine ⟨places, _, hplaces, hplaces.everyCall, hmap, (perm_edges ps).trans (.of_eq ?_)⟩
  rw [edgesEach_nodes hplaces hmap]
  refine List.map_congr_left fun c hc => ?_
  have hruns := ((hplaces.everyCall.mem_iff c).mp hc).runs
  rw [hplaces.idxOf_eq_number ((hplaces.mem_iff _).mpr hruns.source),
    hplaces.idxOf_eq_number ((hplaces.mem_iff _).mpr hruns.target)]

namespace Depicts

/-- The order of its edges does not matter to what a graph depicts. -/
theorem of_perm (h : g.Depicts ps places calls) (hnodes : g'.nodes = g.nodes)
    (hedges : g'.edges.Perm g.edges) : g'.Depicts ps places calls where
  everyPlace := h.everyPlace
  everyCall := h.everyCall
  nodes := by rw [hnodes, h.nodes]
  edges := hedges.trans h.edges

/-- A graph that depicts a document has all its tools, each once and in order, whatever runs
them. -/
theorem listed_tools (h : g.Depicts ps places calls) :
    Listed ps (fun _ t => t.processClass = .commandLineTool) g.tools := by
  have hall : Listed ps (fun _ _ => True) g.nodes :=
    ⟨places, h.everyPlace.sorted, by simpa only [and_true] using h.everyPlace.mem_iff, h.nodes⟩
  exact (hall.filter CwlProcess.isTool).congr fun _ t _ => by
    rw [true_and, CwlProcess.isTool, decide_eq_true_eq]

end Depicts

end CallGraph

end CwlCompliance
