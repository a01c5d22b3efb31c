import CwlCompliance.Proofs.Lists
import CwlCompliance.Proofs.Process.CallGraph

/-!
# The search of the call graph

The search goes in rounds.  Its invariant is that what a seen node runs is either seen
or still to visit; every round but the last finds a node that was not seen before, so
the rounds do not run out while something is left to visit.

## Main definitions

* `CallGraph.fresh` — what a round finds.
* `CallGraph.Searching` — the invariant of the search.

## Main results

* `CallGraph.visit_eq_of_le` — **the search ends**: as soon as there are more rounds
  than nodes, further rounds change nothing.
* `CallGraph.mem_closure_iff` — the search finds exactly what its start reaches.
* `listed_toolsFrom`, `listed_tools` — the tools that a node reaches, and all tools,
  each occurrence once and in the order of the document.
-/

namespace CwlCompliance

namespace CallGraph

variable {g : CallGraph} {U seen todo : List ℕ} {m n : ℕ}

/-! ### One round -/

theorem mem_successors {a b : ℕ} : b ∈ g.successors a ↔ (a, b) ∈ g.edges := by
  rw [successors, List.mem_filterMap]
  constructor
  · rintro ⟨⟨a', b'⟩, he, hif⟩
    simp only [Option.ite_none_right_eq_some, Option.some.injEq] at hif
    rwa [← hif.1, ← hif.2]
  · intro he
    exact ⟨(a, b), he, if_pos rfl⟩

/-- What a round finds: the nodes to visit that have not been seen, each once. -/
def fresh (seen todo : List ℕ) : List ℕ := (todo.filter fun n => !seen.contains n).eraseDups

theorem mem_fresh : n ∈ fresh seen todo ↔ n ∈ todo ∧ n ∉ seen := by
  rw [fresh, List.mem_eraseDups, List.mem_filter]
  simp

theorem nodup_fresh : (fresh seen todo).Nodup := nodup_eraseDups _

theorem visit_succ (rounds : ℕ) : g.visit (rounds + 1) seen todo =
    if fresh seen todo = [] then seen
    else g.visit rounds (seen ++ fresh seen todo) ((fresh seen todo).flatMap g.successors) := by
  rw [visit]
  split
  · next h => rw [if_pos (by rw [fresh, h])]
  · next h => rw [if_neg (by rw [fresh]; exact h), fresh]

/-! ### The invariant -/

/-- The invariant of the search: nothing is seen twice, no node lies outside `U`, and
what a seen node runs is seen or still to visit. -/
structure Searching (g : CallGraph) (U seen todo : List ℕ) : Prop where
  /-- Nothing is seen twice. -/
  nodup : seen.Nodup
  /-- What is seen lies inside. -/
  seen_mem : ∀ n ∈ seen, n ∈ U
  /-- What is still to visit lies inside. -/
  todo_mem : ∀ n ∈ todo, n ∈ U
  /-- What a seen node runs is not lost. -/
  frontier : ∀ a ∈ seen, ∀ b, (a, b) ∈ g.edges → b ∈ seen ∨ b ∈ todo

/-- Edges do not lead out of `U`. -/
def Contains (g : CallGraph) (U : List ℕ) : Prop := ∀ a b, (a, b) ∈ g.edges → b ∈ U

namespace Searching

theorem start (h : ∀ n ∈ todo, n ∈ U) : Searching g U [] todo where
  nodup := List.nodup_nil
  seen_mem := by simp
  todo_mem := h
  frontier := by simp

/-- A round keeps the invariant. -/
theorem next (hU : g.Contains U) (h : Searching g U seen todo) :
    Searching g U (seen ++ fresh seen todo) ((fresh seen todo).flatMap g.successors) where
  nodup := by
    rw [List.nodup_append]
    refine ⟨h.nodup, nodup_fresh, ?_⟩
    rintro a ha b hb rfl
    exact (mem_fresh.mp hb).2 ha
  seen_mem := by
    intro n hn
    rcases List.mem_append.mp hn with hn | hn
    · exact h.seen_mem n hn
    · exact h.todo_mem n (mem_fresh.mp hn).1
  todo_mem := by
    intro n hn
    obtain ⟨a, -, hn⟩ := List.mem_flatMap.mp hn
    exact hU a n (mem_successors.mp hn)
  frontier := by
    intro a ha b hab
    rcases List.mem_append.mp ha with ha | ha
    · -- the old frontier is either seen already or found in this round
      rcases h.frontier a ha b hab with hb | hb
      · exact Or.inl (List.mem_append_left _ hb)
      · by_cases hseen : b ∈ seen
        · exact Or.inl (List.mem_append_left _ hseen)
        · exact Or.inl (List.mem_append_right _ (mem_fresh.mpr ⟨hb, hseen⟩))
    · exact Or.inr (List.mem_flatMap.mpr ⟨a, ha, mem_successors.mpr hab⟩)

theorem length_le (h : Searching g U seen todo) : seen.length ≤ U.length :=
  h.nodup.length_le_of_subset h.seen_mem

end Searching

/-- A round that finds something sees more. -/
theorem length_lt_of_fresh_ne_nil (h : fresh seen todo ≠ []) :
    seen.length < (seen ++ fresh seen todo).length := by
  have := List.length_pos_iff.mpr h
  rw [List.length_append]
  omega

/-! ### The whole search -/

/-- With more rounds than nodes are left, further rounds change nothing. -/
theorem visit_add (hU : g.Contains U) (more : ℕ) : ∀ (rounds : ℕ) {seen todo : List ℕ},
    Searching g U seen todo → U.length < rounds + seen.length →
      g.visit (rounds + more) seen todo = g.visit rounds seen todo := by
  intro rounds
  induction rounds with
  | zero =>
    -- more would have been seen than there is
    intro seen todo h hlen
    have := h.length_le
    omega
  | succ rounds ih =>
    intro seen todo h hlen
    rw [show rounds + 1 + more = rounds + more + 1 by omega, visit_succ, visit_succ]
    by_cases hf : fresh seen todo = []
    · rw [if_pos hf, if_pos hf]
    · rw [if_neg hf, if_neg hf]
      have := length_lt_of_fresh_ne_nil hf
      exact ih (h.next hU) (by omega)

/-- With more rounds than nodes are left, the search loses nothing: it sees what it
had seen or was to visit, and what is run by a node that it sees. -/
theorem visit_complete (hU : g.Contains U) : ∀ (rounds : ℕ) {seen todo : List ℕ},
    Searching g U seen todo → U.length < rounds + seen.length →
      (∀ n, n ∈ seen ∨ n ∈ todo → n ∈ g.visit rounds seen todo) ∧
        ∀ a ∈ g.visit rounds seen todo, ∀ b, (a, b) ∈ g.edges → b ∈ g.visit rounds seen todo := by
  intro rounds
  induction rounds with
  | zero =>
    intro seen todo h hlen
    have := h.length_le
    omega
  | succ rounds ih =>
    intro seen todo h hlen
    rw [visit_succ]
    by_cases hf : fresh seen todo = []
    · rw [if_pos hf]
      -- nothing is left to visit
      have hsub : ∀ n ∈ todo, n ∈ seen := by
        intro n hn
        by_contra hseen
        have hmem : n ∈ fresh seen todo := mem_fresh.mpr ⟨hn, hseen⟩
        rw [hf] at hmem
        exact absurd hmem List.not_mem_nil
      refine ⟨fun n hn => hn.elim id (hsub n), ?_⟩
      intro a ha b hab
      exact (h.frontier a ha b hab).elim id (hsub b)
    · rw [if_neg hf]
      have hlt := length_lt_of_fresh_ne_nil hf
      obtain ⟨hin, hclosed⟩ := ih (h.next hU) (by omega)
      refine ⟨?_, hclosed⟩
      intro n hn
      refine hin n (Or.inl ?_)
      by_cases hseen : n ∈ seen
      · exact List.mem_append_left _ hseen
      · exact List.mem_append_right _ (mem_fresh.mpr ⟨hn.resolve_left hseen, hseen⟩)

/-- Whatever holds of the start and goes over along edges holds of all that is seen. -/
theorem visit_sound {P : ℕ → Prop} (hP : ∀ a b, P a → (a, b) ∈ g.edges → P b) :
    ∀ (rounds : ℕ) {seen todo : List ℕ}, (∀ n ∈ seen, P n) → (∀ n ∈ todo, P n) →
      ∀ n ∈ g.visit rounds seen todo, P n := by
  intro rounds
  induction rounds with
  | zero => intro seen todo hseen _ n hn; exact hseen n hn
  | succ rounds ih =>
    intro seen todo hseen htodo
    rw [visit_succ]
    have hfresh : ∀ n ∈ fresh seen todo, P n := fun n hn => htodo n (mem_fresh.mp hn).1
    split
    · exact hseen
    · refine ih ?_ ?_
      · intro n hn
        exact (List.mem_append.mp hn).elim (hseen n) (hfresh n)
      · intro n hn
        obtain ⟨a, ha, hn⟩ := List.mem_flatMap.mp hn
        exact hP a n (hfresh a ha) (mem_successors.mp hn)

/-- The edges of the graph lead to its nodes. -/
def Proper (g : CallGraph) : Prop := ∀ a b, (a, b) ∈ g.edges → b < g.nodes.length

/-- The nodes that a search can see. -/
def scope (g : CallGraph) (start : List ℕ) : List ℕ := List.range g.nodes.length ++ start

theorem Proper.contains (hg : g.Proper) (start : List ℕ) : g.Contains (g.scope start) :=
  fun a b hab => List.mem_append_left _ (List.mem_range.mpr (hg a b hab))

theorem searching_start (start : List ℕ) : Searching g (g.scope start) [] start :=
  Searching.start fun _ hn => List.mem_append_right _ hn

theorem length_scope (start : List ℕ) :
    (g.scope start).length = g.nodes.length + start.length := by
  simp [scope]

/-- **The search ends**: as soon as there are more rounds than nodes, further rounds
change nothing. -/
theorem visit_eq_of_le (hg : g.Proper) (start : List ℕ) {rounds : ℕ}
    (hrounds : g.nodes.length + start.length < rounds) :
    g.visit rounds [] start = g.closure start := by
  obtain ⟨more, rfl⟩ : ∃ more, rounds = g.nodes.length + start.length + 1 + more :=
    ⟨rounds - (g.nodes.length + start.length + 1), by omega⟩
  refine visit_add (hg.contains start) more _ (searching_start start) ?_
  rw [length_scope, List.length_nil]
  omega

theorem Reaches.snoc {a b c : ℕ} (h : g.Reaches a b) (hbc : (b, c) ∈ g.edges) :
    g.Reaches a c := by
  induction h with
  | refl n => exact .step hbc (.refl c)
  | step edge _ ih => exact .step edge (ih hbc)

/-- The search finds exactly what its start reaches. -/
theorem mem_closure_iff (hg : g.Proper) {start : List ℕ} :
    n ∈ g.closure start ↔ ∃ m ∈ start, g.Reaches m n := by
  constructor
  · refine visit_sound (P := fun n => ∃ m ∈ start, g.Reaches m n) ?_ _ (by simp) ?_ n
    · rintro a b ⟨m, hm, hma⟩ hab
      exact ⟨m, hm, hma.snoc hab⟩
    · intro m hm
      exact ⟨m, hm, .refl m⟩
  · rintro ⟨m, hm, hmn⟩
    obtain ⟨hin, hclosed⟩ := visit_complete (hg.contains start) (g.nodes.length + start.length + 1)
      (searching_start start) (by rw [length_scope, List.length_nil]; omega)
    have hstart : m ∈ g.closure start := hin m (Or.inr hm)
    clear hm hin
    induction hmn with
    | refl => exact hstart
    | step edge _ ih => exact ih (hclosed _ hstart _ edge)

/-! ### Tools -/

/-- All tools, selected as those are that a node reaches. -/
theorem tools_eq (g : CallGraph) :
    g.tools = (g.nodes.zipIdx.filter fun x => x.1.isTool).map (·.1) := by
  rw [tools, show (fun x : CwlProcess × ℕ => x.1.isTool) = CwlProcess.isTool ∘ Prod.fst from rfl,
    ← List.filter_map, List.zipIdx_map_fst]

/-- The tools that a node reaches come in the order in which all tools do. -/
theorem toolsFrom_sublist_tools (g : CallGraph) (n : ℕ) : (g.toolsFrom n).Sublist g.tools := by
  rw [tools_eq]
  refine (List.monotone_filter_right _ fun x hx => ?_).map _
  exact (Bool.and_eq_true_iff.mp hx).2

end CallGraph

/-! ### Nodes reached and places reached -/

section Places

variable {ps : List CwlProcess} {a : Place} {p : CwlProcess} {n : ℕ}

theorem proper_ofProcesses (ps : List CwlProcess) : (CallGraph.ofProcesses ps).Proper := by
  intro m n hmn
  obtain ⟨a, b, hrun, -, rfl⟩ := CallGraph.mem_edges_iff.mp hmn
  obtain ⟨q, hq⟩ := hrun.target
  exact (List.getElem?_eq_some_iff.mp (getElem?_nodes_number hq)).1

/-- The only edge to a process declared in place is that from the process declaring it. -/
theorem source_eq_of_edge_snoc {i : ℕ} (ha : a ≠ []) (hp : processAt ps (a ++ [i]) = some p)
    (h : (n, number ps (a ++ [i])) ∈ (CallGraph.ofProcesses ps).edges) : n = number ps a := by
  obtain ⟨c, b, hrun, rfl, hb⟩ := CallGraph.mem_edges_iff.mp h
  obtain ⟨q, hq⟩ := hrun.target
  rw [← eq_of_number_eq hp hq hb] at hrun
  rw [hrun.eq_of_snoc ha]

/-- What a node reaches in the graph is what its place reaches in the document. -/
theorem reaches_number_iff (ha : processAt ps a = some p) :
    (CallGraph.ofProcesses ps).Reaches (number ps a) n ↔ ∃ b, Reaches ps a b ∧ n = number ps b := by
  constructor
  · intro h
    generalize hm : number ps a = m at h
    induction h generalizing a p with
    | refl => exact ⟨a, .refl, hm.symm⟩
    | step edge _ ih =>
      -- places with one number are the same, so the edge starts where the path has come to
      obtain ⟨a', b, hrun, ha', rfl⟩ := CallGraph.mem_edges_iff.mp edge
      obtain ⟨q, hq⟩ := hrun.source
      obtain rfl : a = a' := eq_of_number_eq ha hq (hm.trans ha')
      obtain ⟨r, hr⟩ := hrun.target
      obtain ⟨c, hbc, hn⟩ := ih hr rfl
      exact ⟨c, .head hrun hbc, hn⟩
  · rintro ⟨b, hab, rfl⟩
    induction hab with
    | refl => exact .refl _
    | tail _ hrun ih => exact ih.snoc (CallGraph.mem_edges_iff.mpr ⟨_, _, hrun, rfl, rfl⟩)

theorem mem_closure_number_iff (ha : processAt ps a = some p) :
    n ∈ (CallGraph.ofProcesses ps).closure [number ps a] ↔
      ∃ b, Reaches ps a b ∧ n = number ps b := by
  rw [CallGraph.mem_closure_iff (proper_ofProcesses ps), ← reaches_number_iff ha]
  simp

theorem pairwise_zipIdx {α : Type*} (l : List α) : l.zipIdx.Pairwise fun x y => x.2 < y.2 := by
  rw [← List.pairwise_map (f := Prod.snd) (R := (· < ·)), List.zipIdx_map_snd]
  exact List.pairwise_lt_range'

/-- A selection of nodes by number and process lists the processes selected. -/
theorem listed_filter_nodes (ps : List CwlProcess) (P : ℕ → CwlProcess → Bool) :
    Listed ps (fun a p => P (number ps a) p = true)
      (((CallGraph.ofProcesses ps).nodes.zipIdx.filter fun x => P x.2 x.1).map (·.1)) := by
  set picked := (CallGraph.ofProcesses ps).nodes.zipIdx.filter fun x => P x.2 x.1 with hpicked
  have hmem : ∀ x : CwlProcess × ℕ, x ∈ picked ↔
      (CallGraph.ofProcesses ps).nodes[x.2]? = some x.1 ∧ P x.2 x.1 = true := by
    intro x
    rw [hpicked, List.mem_filter, List.mem_zipIdx_iff_getElem?]
  -- every node picked stands at a place with its number
  have hplace : ∀ x : CwlProcess × ℕ, ∃ a, x ∈ picked →
      processAt ps a = some x.1 ∧ number ps a = x.2 := by
    intro x
    by_cases hx : x ∈ picked
    · have hnode := ((hmem x).mp hx).1
      obtain ⟨a, q, hq, hn⟩ := exists_number (List.getElem?_eq_some_iff.mp hnode).1
      refine ⟨a, fun _ => ⟨?_, hn⟩⟩
      rw [hq, ← getElem?_nodes_number hq, hn, hnode]
    · exact ⟨[], fun h => absurd h hx⟩
  choose place hplace using hplace
  refine ⟨picked.map place, ?_, ?_, ?_⟩
  -- the order of the numbers is that of the places
  · rw [List.pairwise_map]
    refine List.Pairwise.imp_of_mem ?_ ((pairwise_zipIdx _).filter _)
    intro x y hx hy hlt
    obtain ⟨hax, hnx⟩ := hplace x hx
    obtain ⟨hay, hny⟩ := hplace y hy
    exact lt_of_number_lt hax hay (by rw [hnx, hny]; exact hlt)
  · intro a
    rw [List.mem_map]
    constructor
    · rintro ⟨x, hx, rfl⟩
      obtain ⟨hax, hnx⟩ := hplace x hx
      refine ⟨x.1, hax, ?_⟩
      show P (number ps (place x)) x.1 = true
      rw [hnx]
      exact ((hmem x).mp hx).2
    · rintro ⟨p, hp, hP⟩
      have hx : (p, number ps a) ∈ picked := (hmem _).mpr ⟨getElem?_nodes_number hp, hP⟩
      obtain ⟨hax, hnx⟩ := hplace _ hx
      exact ⟨_, hx, eq_of_number_eq hax hp hnx⟩
  · rw [List.map_map, List.map_map]
    refine List.map_congr_left fun x hx => ?_
    exact (hplace x hx).1

/-- **The tools that a node reaches, each occurrence once and in document order.** -/
theorem listed_toolsFrom (ha : processAt ps a = some p) :
    Listed ps (fun b t => t.isTool = true ∧ Reaches ps a b)
      ((CallGraph.ofProcesses ps).toolsFrom (number ps a)) := by
  have h := listed_filter_nodes ps fun n t =>
    ((CallGraph.ofProcesses ps).closure [number ps a]).contains n && t.isTool
  refine h.congr fun b t hb => ?_
  rw [Bool.and_eq_true, List.contains_iff_mem, mem_closure_number_iff ha, and_comm]
  refine and_congr_right fun _ => ⟨?_, fun hab => ⟨b, hab, rfl⟩⟩
  rintro ⟨c, hac, hn⟩
  obtain ⟨q, hc⟩ := hac.target ha
  rwa [eq_of_number_eq hb hc hn]

/-- **All tools of a document, each occurrence once and in document order.** -/
theorem listed_tools (ps : List CwlProcess) :
    Listed ps (fun _ t => t.isTool = true) (CallGraph.ofProcesses ps).tools := by
  have h := listed_filter_nodes ps fun _ t => t.isTool
  rwa [CallGraph.tools_eq]

end Places

end CwlCompliance
