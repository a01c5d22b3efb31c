import CwlCompliance.Proofs.Process.Numbering

/-!
# The edges of the call graph

An edge from a process leads to a process that one of its steps declares in place, or
to the first process at the top that one of its steps refers to.  The graph finds both
numbers while it walks the document; here they are shown to be the numbers of places.

## Main definitions

* `CallGraph.Joins` — what an edge from a process, or from one inside it, joins.

## Main results

* `CallGraph.resolve?_eq_some` — what a reference means.
* `CallGraph.mem_edges_iff` — **the edges of the call graph are the relation `Runs`.**
-/

namespace CwlCompliance

/-! ### The edges of the graph -/

namespace CallGraph

variable {find : String → Option ℕ} {e : ℕ × ℕ} {m n : ℕ}

theorem edgesOfSteps_cons (owner next : ℕ) (s : Step) (rest : List Step) :
    edgesOfSteps find owner next (s :: rest) = edgesOfTarget find owner next s.run ++
      edgesOfSteps find owner (next + s.declared.length) rest := by
  cases s
  rw [edgesOfSteps]
  rfl

theorem mem_edgesOfSteps {owner next : ℕ} {steps : List Step} :
    e ∈ edgesOfSteps find owner next steps ↔ ∃ i s, steps[i]? = some s ∧
      e ∈ edgesOfTarget find owner (next + partStart Step.declared steps i) s.run := by
  induction steps generalizing next with
  | nil => simp [edgesOfSteps]
  | cons s rest ih =>
    rw [edgesOfSteps_cons, List.mem_append, ih]
    constructor
    · rintro (h | ⟨i, t, ht, h⟩)
      · exact ⟨0, s, rfl, by simpa using h⟩
      · exact ⟨i + 1, t, by simpa using ht, by simpa [Nat.add_assoc] using h⟩
    · rintro ⟨i, t, ht, h⟩
      cases i with
      | zero =>
        rw [List.getElem?_cons_zero, Option.some.injEq] at ht
        subst ht
        exact Or.inl (by simpa using h)
      | succ i => exact Or.inr ⟨i, t, by simpa using ht, by simpa [Nat.add_assoc] using h⟩

theorem mem_edgesOf_step {p : CwlProcess} :
    e ∈ edgesOf find n p ↔ ∃ i s, p.steps[i]? = some s ∧
      e ∈ edgesOfTarget find n (n + 1 + partStart Step.declared p.steps i) s.run := by
  rw [← mem_edgesOfSteps]
  cases p
  rw [edgesOf]

theorem mem_edgesOfTarget {owner next : ℕ} {t : Target} :
    e ∈ edgesOfTarget find owner next t ↔
      (∃ locator k, t = .reference locator ∧ find locator = some k ∧ e = (owner, k)) ∨
        ∃ c, t = .inline c ∧ (e = (owner, next) ∨ e ∈ edgesOf find next c) := by
  cases t with
  | unspecified => simp [edgesOfTarget]
  | reference locator =>
    cases hk : find locator with
    | none => simp [edgesOfTarget, hk]
    | some k => simp [edgesOfTarget, hk]
  | inline c => simp [edgesOfTarget]

/-- What an edge from a process joins: the process that some steps lead down to, and
one that it declares in place or refers to. -/
def Joins (find : String → Option ℕ) (n : ℕ) (p : CwlProcess) (e : ℕ × ℕ) : Prop :=
  ∃ path q, p.inner? path = some q ∧ e.1 = n + p.offset path ∧
    ((∃ i c, q.child? i = some c ∧ e.2 = n + p.offset (path ++ [i])) ∨
      ∃ s ∈ q.steps, ∃ locator, s.run = .reference locator ∧ find locator = some e.2)

/-- What an edge from a process declared in place joins, seen from the process that
declares it. -/
theorem Joins.lift {p c : CwlProcess} {i : ℕ} (hc : p.child? i = some c)
    (h : Joins find (n + 1 + partStart Step.declared p.steps i) c e) : Joins find n p e := by
  obtain ⟨path, q, hq, hfst, hsnd⟩ := h
  refine ⟨i :: path, q, by rw [CwlProcess.inner?_cons, hc]; exact hq, ?_, ?_⟩
  · rw [hfst, CwlProcess.offset_cons hc]
    omega
  · rcases hsnd with ⟨j, d, hd, hsnd⟩ | h
    · refine Or.inl ⟨j, d, hd, ?_⟩
      rw [hsnd, List.cons_append, CwlProcess.offset_cons hc]
      omega
    · exact Or.inr h

theorem joins_of_mem_edgesOf (p : CwlProcess) :
    ∀ n e, e ∈ edgesOf find n p → Joins find n p e := by
  induction p using CwlProcess.inline_induction with
  | h p ih =>
    intro n e he
    obtain ⟨i, s, hs, he⟩ := mem_edgesOf_step.mp he
    -- the edge refers to the top, leads one level down, or lies further down
    rcases mem_edgesOfTarget.mp he with ⟨locator, k, hrun, hk, rfl⟩ | ⟨c, hrun, rfl | he⟩
    · exact ⟨[], p, rfl, rfl, Or.inr ⟨s, List.mem_of_getElem? hs, locator, hrun, hk⟩⟩
    · have hc : p.child? i = some c := CwlProcess.child?_eq_some.mpr ⟨s, hs, hrun⟩
      refine ⟨[], p, rfl, rfl, Or.inl ⟨i, c, hc, ?_⟩⟩
      rw [List.nil_append, CwlProcess.offset_cons hc, CwlProcess.offset_nil]
      omega
    · have hc : p.child? i = some c := CwlProcess.child?_eq_some.mpr ⟨s, hs, hrun⟩
      exact (ih s (List.mem_of_getElem? hs) c hrun _ e he).lift hc

theorem mem_edgesOf_of_joins {e : ℕ × ℕ} (path : List ℕ) : ∀ {n : ℕ} {p q : CwlProcess},
    p.inner? path = some q → e.1 = n + p.offset path →
    ((∃ i c, q.child? i = some c ∧ e.2 = n + p.offset (path ++ [i])) ∨
      ∃ s ∈ q.steps, ∃ locator, s.run = .reference locator ∧ find locator = some e.2) →
    e ∈ edgesOf find n p := by
  obtain ⟨a, b⟩ := e
  induction path with
  | nil =>
    intro n p q hq hfst hsnd
    rw [CwlProcess.inner?_nil, Option.some.injEq] at hq
    subst hq
    rw [CwlProcess.offset_nil] at hfst
    rcases hsnd with ⟨i, c, hc, hb⟩ | ⟨s, hs, locator, hrun, hb⟩
    · obtain ⟨s, hs, hrun⟩ := CwlProcess.child?_eq_some.mp hc
      rw [List.nil_append, CwlProcess.offset_cons hc, CwlProcess.offset_nil] at hb
      refine mem_edgesOf_step.mpr ⟨i, s, hs, mem_edgesOfTarget.mpr (Or.inr ⟨c, hrun, Or.inl ?_⟩)⟩
      rw [Prod.mk.injEq]
      omega
    · obtain ⟨i, hi⟩ := List.getElem?_of_mem hs
      refine mem_edgesOf_step.mpr
        ⟨i, s, hi, mem_edgesOfTarget.mpr (Or.inl ⟨locator, b, hrun, hb, ?_⟩)⟩
      rw [Prod.mk.injEq]
      exact ⟨hfst, rfl⟩
  | cons i path ih =>
    intro n p q hq hfst hsnd
    rw [CwlProcess.inner?_cons, Option.bind_eq_some_iff] at hq
    obtain ⟨c, hc, hq⟩ := hq
    obtain ⟨s, hs, hrun⟩ := CwlProcess.child?_eq_some.mp hc
    refine mem_edgesOf_step.mpr ⟨i, s, hs, mem_edgesOfTarget.mpr (Or.inr ⟨c, hrun, Or.inr ?_⟩)⟩
    refine ih hq ?_ ?_
    · rw [hfst, CwlProcess.offset_cons hc]
      omega
    · rcases hsnd with ⟨j, d, hd, hb⟩ | h
      · refine Or.inl ⟨j, d, hd, ?_⟩
        rw [hb, List.cons_append, CwlProcess.offset_cons hc]
        omega
      · exact Or.inr h

theorem mem_edgesOf {p : CwlProcess} : e ∈ edgesOf find n p ↔ Joins find n p e := by
  constructor
  · exact joins_of_mem_edgesOf p n e
  · rintro ⟨path, q, hq, hfst, hsnd⟩
    exact mem_edgesOf_of_joins path hq hfst hsnd

/-! ### What references mean -/

theorem getElem?_numbered (ps : List CwlProcess) (i : ℕ) : ∀ n, (numbered n ps)[i]? =
    ps[i]?.map fun p => (n + partStart CwlProcess.occurrences ps i, p) := by
  induction ps generalizing i with
  | nil => intro n; simp [numbered]
  | cons p ps ih =>
    intro n
    cases i with
    | zero => simp [numbered]
    | succ i => simp [numbered, ih, Nat.add_assoc]

theorem getElem?_tops (ps : List CwlProcess) (i : ℕ) :
    (numbered 0 ps)[i]? = ps[i]?.map fun p => (number ps [i], p) := by
  rw [getElem?_numbered]
  cases hp : ps[i]? with
  | none => rfl
  | some p => simp [number_cons hp]

/-- A reference means the first process at the top that has its local name. -/
theorem resolve?_eq_some {ps : List CwlProcess} {locator : String} :
    resolve? (numbered 0 ps) locator = some n ↔
      ∃ j, IsFirst (fun t => t.localId = some (localName locator)) ps j ∧ n = number ps [j] := by
  rw [resolve?, Option.map_eq_some_iff]
  have hfind := fun t : ℕ × CwlProcess => find?_eq_some_iff_isFirst (b := t) (getElem?_tops ps)
    (q := fun e => e.2.localId == some (localName locator))
    (P := fun t => t.localId = some (localName locator)) fun _ _ _ => by simp
  constructor
  · rintro ⟨t, ht, rfl⟩
    obtain ⟨j, p, -, rfl, hfirst⟩ := (hfind t).mp ht
    exact ⟨j, hfirst, rfl⟩
  · rintro ⟨j, hfirst, rfl⟩
    obtain ⟨p, hp, -⟩ := hfirst.1
    exact ⟨(number ps [j], p), (hfind _).mpr ⟨j, p, hp, rfl, hfirst⟩, rfl⟩

/-- **The edges of the call graph are the relation `Runs`.** -/
theorem mem_edges_iff {ps : List CwlProcess} :
    (m, n) ∈ (ofProcesses ps).edges ↔
      ∃ a b, Runs ps a b ∧ m = number ps a ∧ n = number ps b := by
  have hedges : (m, n) ∈ (ofProcesses ps).edges ↔ ∃ i p, ps[i]? = some p ∧
      Joins (resolve? (numbered 0 ps)) (number ps [i]) p (m, n) := by
    show (m, n) ∈ (numbered 0 ps).flatMap (fun t => edgesOf (resolve? (numbered 0 ps)) t.1 t.2) ↔ _
    rw [List.mem_flatMap]
    constructor
    · rintro ⟨t, ht, he⟩
      obtain ⟨i, hi⟩ := List.getElem?_of_mem ht
      rw [getElem?_tops, Option.map_eq_some_iff] at hi
      obtain ⟨p, hp, rfl⟩ := hi
      exact ⟨i, p, hp, mem_edgesOf.mp he⟩
    · rintro ⟨i, p, hp, hjoins⟩
      refine ⟨(number ps [i], p), ?_, mem_edgesOf.mpr hjoins⟩
      exact List.mem_of_getElem? (i := i) (by rw [getElem?_tops, hp]; rfl)
  -- numbers within a process count on from the number of the process at the top
  have hnumber : ∀ {i : ℕ} {p : CwlProcess} (path : List ℕ), ps[i]? = some p →
      number ps (i :: path) = number ps [i] + p.offset path := by
    intro i p path hp
    rw [number_cons hp, number_cons hp, CwlProcess.offset_nil]
    omega
  rw [hedges]
  constructor
  · rintro ⟨i, p, hp, path, q, hq, hfst, hsnd⟩
    have hat : processAt ps (i :: path) = some q := by rw [processAt_cons, hp]; exact hq
    rcases hsnd with ⟨j, c, hc, hsnd⟩ | ⟨s, hs, locator, hrun, hfind⟩
    · obtain ⟨s, hs, hrun⟩ := CwlProcess.child?_eq_some.mp hc
      exact ⟨i :: path, i :: path ++ [j], .inline hat hs hrun,
        by rw [hnumber path hp]; exact hfst,
        by rw [List.cons_append, hnumber (path ++ [j]) hp]; exact hsnd⟩
    · obtain ⟨j, hfirst, hn⟩ := resolve?_eq_some.mp hfind
      exact ⟨i :: path, [j], .reference hat hs hrun hfirst,
        by rw [hnumber path hp]; exact hfst, hn⟩
  · rintro ⟨a, b, hrun, rfl, rfl⟩
    obtain ⟨q, hat⟩ := hrun.source
    cases a with
    | nil => simp at hat
    | cons i path =>
      have hat' := hat
      rw [processAt_cons, Option.bind_eq_some_iff] at hat'
      obtain ⟨p, hp, hq⟩ := hat'
      refine ⟨i, p, hp, path, q, hq, hnumber path hp, ?_⟩
      cases hrun with
      | @inline _ c s j stands step run =>
        rw [hat, Option.some.injEq] at stands
        subst stands
        exact Or.inl ⟨j, c, CwlProcess.child?_eq_some.mpr ⟨s, step, run⟩,
          by rw [List.cons_append]; exact hnumber (path ++ [j]) hp⟩
      | @reference _ s locator j stands step run first =>
        rw [hat, Option.some.injEq] at stands
        subst stands
        exact Or.inr ⟨s, step, locator, run, resolve?_eq_some.mpr ⟨j, first, rfl⟩⟩

end CallGraph

end CwlCompliance
