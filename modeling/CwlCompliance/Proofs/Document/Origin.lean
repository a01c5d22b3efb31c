import CwlCompliance.Proofs.Document.Decoding
import CwlCompliance.Proofs.Lists
import CwlCompliance.Proofs.Process.Place

/-!
# The mapping that declares a process

Each process of a document is declared by a mapping in it: the root, an item of the graph,
or what a step runs.  A place leads to this mapping as it leads to the process.

## Main definitions

* `stepValues`, `declaredIn?` — the steps in a mapping, and what one declares in place.
* `topEntries?`, `entriesAt` — the mapping that declares the process at a place.
* `seenRoot` — the root, for a process that looks there for metadata.
* `CwlProcess.ReadFrom` — the parts of a process were read from a mapping.

## Main results

* `CwlProcess.readFrom_of_ofEntries` — what can be told from a process that was read.
* `exists_read_child` — what a step declares was read from the mapping in the step.
* `exists_read_processAt` — **the process at a place was read from the mapping there.**
-/

namespace CwlCompliance

open Yaml

/-! ### From a mapping to the one declared in a step -/

/-- The values that stand for the steps of a process, in order. -/
def stepValues (es : Entries) : List Value :=
  match es.get? "steps" with
  | some (.sequence items) => items
  | some (.mapping bodies) => bodies.map Prod.snd
  | _ => []

/-- The mapping that declares what a step runs. -/
def declaredIn? (item : Value) : Option Entries :=
  (item.asEntries?.bind fun fields => fields.get? "run").bind Value.asEntries?

/-- The mapping that the steps at some positions lead down to. -/
def innerEntries : Entries → List ℕ → Option Entries
  | es, [] => some es
  | es, i :: path =>
    ((stepValues es)[i]?.bind declaredIn?).bind fun es' => innerEntries es' path

/-- The mapping that declares a process at the top of a document with this root. -/
def topEntries? (root : Entries) (i : ℕ) : Option Entries :=
  match root.get? "$graph" with
  | none => if i = 0 then some root else none
  | some graph => (graph.asItems?.bind fun items => items[i]?).bind Value.asEntries?

/-- The mapping that declares the process at a place of a document with this root. -/
def entriesAt (root : Entries) : Place → Option Entries
  | [] => none
  | i :: path => (topEntries? root i).bind fun es => innerEntries es path

/-- The root, if the process at a place looks there for metadata: only a process at the top
of a packed document does. -/
def seenRoot (root : Entries) (a : Place) : Option Entries :=
  if (root.get? "$graph").isSome ∧ a.length = 1 then some root else none

/-! ### What was read -/

section Process

variable {around : Surroundings} {origin : String} {es : Entries} {p q : CwlProcess}

/-- The parts of a process were read from the mapping that declares it. -/
structure CwlProcess.ReadFrom (around : Surroundings) (origin : String) (es : Entries)
    (p : CwlProcess) : Prop where
  /-- Its class. -/
  processClass : Attributes.processClass es origin = .ok p.processClass
  /-- Its steps, if it is a workflow. -/
  steps : ∃ owner, (if p.processClass = .workflow then
    Steps.ofEntries around.prefixes owner es else .ok []) = .ok p.steps
  /-- Its requirements. -/
  requirements : ∃ owner, Attributes.requirements .requirements es owner = .ok p.requirements
  /-- Its hints. -/
  hints : ∃ owner, Attributes.requirements .hints es owner = .ok p.hints
  /-- Its metadata, if it is a workflow. -/
  provenance : p.provenance = if p.processClass = .workflow then
    Provenance.resolve around.prefixes es around.root else []

theorem CwlProcess.readFrom_of_ofEntries (h : CwlProcess.ofEntries around origin es = .ok p) :
    p.ReadFrom around origin es := by
  rw [CwlProcess.ofEntries_eq] at h
  obtain ⟨c, hc, h⟩ := Reading.bind_eq_ok.mp h
  obtain ⟨id, -, h⟩ := Reading.bind_eq_ok.mp h
  obtain ⟨steps, hsteps, h⟩ := Reading.bind_eq_ok.mp h
  rw [CwlProcess.ofAttributes] at h
  obtain ⟨label, -, h⟩ := Reading.bind_eq_ok.mp h
  obtain ⟨doc, -, h⟩ := Reading.bind_eq_ok.mp h
  obtain ⟨inputs, -, h⟩ := Reading.bind_eq_ok.mp h
  obtain ⟨requirements, hrequirements, h⟩ := Reading.bind_eq_ok.mp h
  obtain ⟨hints, hhints, h⟩ := Reading.bind_eq_ok.mp h
  obtain ⟨baseCommand, -, h⟩ := Reading.bind_eq_ok.mp h
  cases h
  exact ⟨hc, ⟨_, hsteps⟩, ⟨_, hrequirements⟩, ⟨_, hhints⟩, rfl⟩

theorem CwlProcess.provenance_ofEntries (h : ofEntries around origin es = .ok p) :
    p.provenance = if p.processClass = .workflow then
      Provenance.resolve around.prefixes es around.root else [] :=
  (readFrom_of_ofEntries h).provenance

section Step

variable {prefixes : List String} {owner : String} {item : Value} {s : Step}

theorem exists_read_fields {id : Option String} {fields : Entries}
    (h : Steps.ofFields prefixes owner id fields = .ok s) (hrun : s.run = .inline q) :
    ∃ es origin, (fields.get? "run").bind Value.asEntries? = some es ∧
      CwlProcess.ofEntries ⟨prefixes, none⟩ origin es = .ok q := by
  obtain ⟨target, htarget, rfl⟩ := Reading.map_eq_ok.mp h
  obtain rfl : target = .inline q := hrun
  rw [Steps.targetIn_eq] at htarget
  cases hv : fields.get? "run" with
  | none =>
    rw [hv] at htarget
    cases htarget
  | some v =>
    rw [hv] at htarget
    dsimp only at htarget
    cases v with
    | mapping es =>
      rw [Steps.targetOf_mapping] at htarget
      obtain ⟨q', hq', hinline⟩ := Reading.map_eq_ok.mp htarget
      obtain rfl := Target.inline.inj hinline
      exact ⟨es, _, rfl, hq'⟩
    | null | string _ =>
      rw [Steps.targetOf] at htarget
      cases htarget
    | bool _ | number _ | sequence _ | tagged _ _ =>
      rw [Steps.targetOf] at htarget
      · cases htarget
      all_goals simp

theorem exists_read_item {n : ℕ} (h : Steps.ofItem prefixes owner n item = .ok s)
    (hrun : s.run = .inline q) : ∃ es origin, declaredIn? item = some es ∧
      CwlProcess.ofEntries ⟨prefixes, none⟩ origin es = .ok q := by
  rw [Steps.ofItem_eq] at h
  cases hitem : item.asEntries? with
  | none =>
    rw [hitem] at h
    exact nomatch h
  | some fields =>
    rw [hitem] at h
    obtain ⟨id, -, h⟩ := Reading.bind_eq_ok.mp h
    rw [declaredIn?, hitem]
    exact exists_read_fields h hrun

theorem exists_read_body {id : Option String} (h : Steps.ofBody prefixes owner id item = .ok s)
    (hrun : s.run = .inline q) : ∃ es origin, declaredIn? item = some es ∧
      CwlProcess.ofEntries ⟨prefixes, none⟩ origin es = .ok q := by
  rw [Steps.ofBody_eq] at h
  cases hitem : item.asEntries? with
  | none =>
    rw [hitem] at h
    exact nomatch h
  | some fields =>
    rw [hitem] at h
    rw [declaredIn?, hitem]
    exact exists_read_fields h hrun

/-- What a step declares was read from the mapping in the step with its number. -/
theorem exists_read_step {steps : List Step} {i : ℕ}
    (h : Steps.ofEntries prefixes owner es = .ok steps) (hi : steps[i]? = some s)
    (hrun : s.run = .inline q) : ∃ es' origin, (stepValues es)[i]?.bind declaredIn? = some es' ∧
      CwlProcess.ofEntries ⟨prefixes, none⟩ origin es' = .ok q := by
  rw [Steps.ofEntries_eq] at h
  rw [stepValues]
  generalize es.get? "steps" = value at h
  match value with
  | none | some .null =>
    obtain rfl : [] = steps := Except.ok.inj h
    exact nomatch hi
  | some (.sequence items) =>
    dsimp only at h
    rw [Steps.ofValue, Steps.ofItems_eq, Reading.mapM_eq_ok] at h
    obtain ⟨⟨item, n⟩, hitem, hread⟩ := exists_getElem?_of_forall₂ h hi
    rw [List.getElem?_zipIdx, Option.map_eq_some_iff] at hitem
    obtain ⟨_, hitem, ⟨⟩⟩ := hitem
    dsimp only
    rw [hitem]
    exact exists_read_item hread hrun
  | some (.mapping bodies) =>
    dsimp only at h
    rw [Steps.ofValue, Steps.ofKeyed_eq, Reading.mapM_eq_ok] at h
    obtain ⟨e, he, hread⟩ := exists_getElem?_of_forall₂ h hi
    dsimp only
    rw [List.getElem?_map, he]
    exact exists_read_body hread hrun
  | some (.bool _) | some (.number _) | some (.string _) | some (.tagged _ _) =>
    dsimp only at h
    rw [Steps.ofValue] at h
    · exact nomatch h
    all_goals simp

end Step

/-- A process declared in place was read from the mapping in its step. -/
theorem exists_read_child {i : ℕ} (h : CwlProcess.ofEntries around origin es = .ok p)
    (hi : p.child? i = some q) :
    ∃ es' origin', (stepValues es)[i]?.bind declaredIn? = some es' ∧
      CwlProcess.ofEntries ⟨around.prefixes, none⟩ origin' es' = .ok q := by
  obtain ⟨s, hs, hrun⟩ := CwlProcess.child?_eq_some.mp hi
  obtain ⟨owner, hsteps⟩ := (CwlProcess.readFrom_of_ofEntries h).steps
  by_cases hc : p.processClass = .workflow
  · rw [if_pos hc] at hsteps
    exact exists_read_step hsteps hs hrun
  -- a process that is no workflow has no steps
  · rw [if_neg hc, Except.ok.injEq] at hsteps
    rw [← hsteps] at hs
    exact nomatch hs

/-- So was one that is declared further down. -/
theorem exists_read_inner {prefixes : List String} : ∀ (path : List ℕ) {es : Entries}
    {origin : String} {p : CwlProcess}, CwlProcess.ofEntries ⟨prefixes, none⟩ origin es = .ok p →
    p.inner? path = some q → ∃ es' origin', innerEntries es path = some es' ∧
      CwlProcess.ofEntries ⟨prefixes, none⟩ origin' es' = .ok q := by
  intro path
  induction path with
  | nil =>
    rintro es origin p h ⟨⟩
    exact ⟨es, origin, rfl, h⟩
  | cons i path ih =>
    intro es origin p h hq
    obtain ⟨child, hchild, hq⟩ := Option.bind_eq_some_iff.mp hq
    obtain ⟨es', origin', hes', hread⟩ := exists_read_child h hchild
    obtain ⟨es'', origin'', hes'', hread'⟩ := ih hread hq
    exact ⟨es'', origin'', by rw [innerEntries, hes', Option.bind_some, hes''], hread'⟩

end Process

/-! ### Documents -/

section Document

variable {v : Value} {d : Document} {root : Entries}

/-- What a document declares, told from its root. -/
theorem exists_of_ofValue_eq_ok (h : Document.ofValue v = .ok d) :
    ∃ root, v.asEntries? = some root ∧ Document.readNamespaces root = .ok d.namespaces ∧
      Document.readProcesses (d.namespaces.map (·.1)) root = .ok d.processes := by
  rw [Document.ofValue] at h
  cases hroot : v.asEntries? with
  | none =>
    rw [hroot] at h
    exact nomatch h
  | some root =>
    rw [hroot] at h
    obtain ⟨namespaces, hnamespaces, h⟩ := Reading.bind_eq_ok.mp h
    obtain ⟨ps, hps, h⟩ := Reading.bind_eq_ok.mp h
    cases h
    exact ⟨root, rfl, hnamespaces, hps⟩

/-- A document is read when its namespaces and its processes are. -/
theorem exists_document_of_read {ns : List (String × String)} {ps : List CwlProcess}
    (hroot : v.asEntries? = some root) (hns : Document.readNamespaces root = .ok ns)
    (hps : Document.readProcesses (ns.map (·.1)) root = .ok ps) :
    ∃ d, Document.ofValue v = .ok d ∧ d.processes = ps := by
  refine ⟨⟨v, (root.get? "cwlVersion").bind Value.asString?, ns, ps⟩, ?_, rfl⟩
  rw [Document.ofValue, hroot]
  exact Reading.bind_eq_ok.mpr ⟨ns, hns, Reading.bind_eq_ok.mpr ⟨ps, hps, rfl⟩⟩

/-- A process at the top was read from the mapping there. -/
theorem exists_read_top {prefixes : List String} {ps : List CwlProcess} {i : ℕ} {q : CwlProcess}
    (h : Document.readProcesses prefixes root = .ok ps) (hi : ps[i]? = some q) :
    ∃ es origin, topEntries? root i = some es ∧
      CwlProcess.ofEntries ⟨prefixes, seenRoot root [i]⟩ origin es = .ok q := by
  rw [Document.readProcesses] at h
  rw [topEntries?, seenRoot]
  cases hgraph : root.get? "$graph" with
  | none =>
    rw [hgraph] at h
    obtain ⟨p, hp, ⟨⟩⟩ := Reading.bind_eq_ok.mp h
    obtain ⟨rfl, rfl⟩ : i = 0 ∧ p = q := by
      cases i with
      | zero => exact ⟨rfl, Option.some.inj hi⟩
      | succ i => exact nomatch hi
    exact ⟨root, _, rfl, hp⟩
  | some graph =>
    rw [hgraph] at h
    cases hitems : graph.asItems? with
    | none =>
      dsimp only at h
      rw [hitems] at h
      exact nomatch h
    | some items =>
      dsimp only at h ⊢
      rw [hitems, Reading.mapM_eq_ok] at h
      obtain ⟨⟨item, n⟩, hitem, hread⟩ := exists_getElem?_of_forall₂ h hi
      rw [List.getElem?_zipIdx, Option.map_eq_some_iff] at hitem
      obtain ⟨_, hitem, ⟨⟩⟩ := hitem
      rw [hitems, Option.bind_some, hitem, Option.bind_some, if_pos ⟨rfl, rfl⟩]
      dsimp only at hread
      rw [Document.readItem] at hread
      cases hes : item.asEntries? with
      | none =>
        rw [hes] at hread
        exact nomatch hread
      | some es =>
        rw [hes] at hread
        exact ⟨es, _, rfl, hread⟩

/-- **The process at a place was read from the mapping there**, under the prefixes of the
document, and saw its root only from the top of a packed document. -/
theorem exists_read_processAt (h : Document.ofValue v = .ok d) {a : Place} {q : CwlProcess}
    (ha : processAt d.processes a = some q) :
    ∃ root es origin, v.asEntries? = some root ∧ entriesAt root a = some es ∧
      CwlProcess.ofEntries ⟨d.namespaces.map (·.1), seenRoot root a⟩ origin es = .ok q := by
  obtain ⟨root, hroot, -, hprocesses⟩ := exists_of_ofValue_eq_ok h
  cases a with
  | nil => exact nomatch ha
  | cons i path =>
    obtain ⟨p, hp, hq⟩ := Option.bind_eq_some_iff.mp ha
    obtain ⟨es, origin, hes, hread⟩ := exists_read_top hprocesses hp
    cases path with
    | nil =>
      obtain rfl : p = q := Option.some.inj hq
      exact ⟨root, es, origin, hroot, by rw [entriesAt, hes]; rfl, hread⟩
    | cons j path =>
      -- what is declared in place does not see what its process sees
      obtain ⟨child, hchild, hq⟩ := Option.bind_eq_some_iff.mp hq
      obtain ⟨es', origin', hes', hread'⟩ := exists_read_child hread hchild
      obtain ⟨es'', origin'', hes'', hread''⟩ := exists_read_inner path hread' hq
      refine ⟨root, es'', origin'', hroot, ?_, ?_⟩
      · rw [entriesAt, hes, Option.bind_some, innerEntries, hes', Option.bind_some, hes'']
      · rw [seenRoot, if_neg (by simp)]
        exact hread''

end Document

end CwlCompliance
