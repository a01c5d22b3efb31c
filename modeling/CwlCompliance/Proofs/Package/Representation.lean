import CwlCompliance.Proofs.Document.Attributes
import CwlCompliance.Proofs.Document.Precedence
import CwlCompliance.Proofs.Package.Scoping

/-!
# What can be relied on in a package

A package that was read keeps to some rules, and whatever looks at it later relies on
them: what only a workflow has is empty everywhere else, a Docker requirement is never
kept as a requirement of another kind, nothing null counts as metadata, and the positions
of the workflows and the tools lead to the workflows and the tools.

## Main definitions

* `WrittenListed`, `WrittenKeyed`, `Written` — the class and the fields of requirements as
  a document writes them.
* `Requirement.Represents`, `RepresentsAll` — requirements represent what is written.
* `CwlProcess.Represents` — a process represents the mapping that declares it.
* `Positions l c ns` — `ns` are the positions of the processes of class `c` in `l`.

## Main results

* `representsAll_of_requirements` — requirements that were read represent what is written.
* `CwlProcess.represents_of_ofEntries` — so does a process.
* `Package.positions_workflows`, `Package.positions_tools` — the positions of a package.
* `Package.represents_of_ofText` — **every process of a package represents what declares
  it, and its positions lead where they should.**
-/

namespace CwlCompliance

open Yaml

variable {list : RequirementList} {es : Entries} {owner : String}

/-! ### Requirements as they are written -/

/-- An item of a list writes a requirement: its class, tags aside, and its other fields. -/
def WrittenListed (item : Value) (x : String × Entries) : Prop :=
  ∃ fields, item.untag = .mapping fields ∧ NamesClass fields x.1 ∧
    x.2 = fields.filter fun e => e.1.asString? != some "class"

/-- An entry of a mapping writes a requirement: its key, tags aside, is the class, and what
stands under it are the fields. -/
def WrittenKeyed (e : Value × Value) (x : String × Entries) : Prop :=
  e.1.untag = .string x.1 ∧ (e.2 = .mapping x.2 ∨ e.2 = .null ∧ x.2 = [])

/-- A value writes requirements, one after the other. -/
inductive Written : Value → List (String × Entries) → Prop
  /-- They form a list. -/
  | listed {items : List Value} {written : List (String × Entries)}
      (each : List.Forall₂ WrittenListed items written) : Written (.sequence items) written
  /-- They form a mapping. -/
  | keyed {bodies : Entries} {written : List (String × Entries)}
      (each : List.Forall₂ WrittenKeyed bodies written) : Written (.mapping bodies) written

/-- A requirement represents what is written: it is of the written class, it is a Docker
requirement when that is its class, and it has the written fields. -/
structure Requirement.Represents (x : String × Entries) (r : Requirement) : Prop where
  /-- Its class is the written one. -/
  className : r.className = x.1
  /-- It is a Docker requirement when that is the written class. -/
  docker : (∃ d, r = .docker d) ↔ x.1 = dockerClass
  /-- A Docker requirement is read from the written fields. -/
  read : ∀ d, r = .docker d → Docker.ofEntries x.2 = .ok d
  /-- Another one has the written fields. -/
  fields : ∀ c fields, r = .other c fields → fields = x.2

/-- One of the two lists of a process represents what its entries write: nothing if they
leave it out or give null, and otherwise each requirement in its place. -/
def RepresentsAll (list : RequirementList) (es : Entries) : Option (List Requirement) → Prop
  | none => es.get? list.key = none ∨ es.get? list.key = some .null
  | some rs => ∃ v written, es.get? list.key = some v ∧ Written v written ∧
      List.Forall₂ Requirement.Represents written rs

theorem writtenListed_of_eq_ok {n : ℕ} {item : Value} {x : String × Entries}
    (h : Attributes.listedRequirement list owner n item = .ok x) : WrittenListed item x := by
  rw [Attributes.listedRequirement] at h
  cases hes : item.asEntries? with
  | none =>
    rw [hes] at h
    cases h
  | some fields =>
    rw [hes] at h
    dsimp only at h
    cases hc : (fields.get? "class").bind Value.asString? with
    | none =>
      rw [hc] at h
      cases h
    | some c =>
      rw [hc] at h
      cases h
      exact ⟨fields, Value.asEntries?_eq_some.mp hes, namesClass_iff.mpr hc, rfl⟩

theorem writtenKeyed_of_eq_ok {e : Value × Value} {x : String × Entries}
    (h : Attributes.keyedRequirement list owner e.1 e.2 = .ok x) : WrittenKeyed e x := by
  rw [Attributes.keyedRequirement] at h
  cases hkey : e.1.asString? with
  | none =>
    rw [hkey] at h
    cases h
  | some c =>
    rw [hkey] at h
    rw [Value.asString?_eq_some] at hkey
    dsimp only at h
    cases hbody : e.2 with
    | mapping fields =>
      rw [hbody] at h
      cases h
      exact ⟨hkey, .inl hbody⟩
    | null =>
      rw [hbody] at h
      cases h
      exact ⟨hkey, .inr ⟨hbody, rfl⟩⟩
    | bool _ | number _ | string _ | sequence _ | tagged _ _ =>
      rw [hbody] at h
      cases h

theorem represents_of_eq_ok {x : String × Entries} {r : Requirement}
    (h : Attributes.readRequirement list owner x = .ok r) : r.Represents x := by
  obtain ⟨c, fields⟩ := x
  rw [Attributes.readRequirement, Attributes.requirement] at h
  by_cases hc : c = dockerClass
  · rw [if_pos hc] at h
    cases hd : Docker.ofEntries fields with
    | error e =>
      rw [hd] at h
      cases h
    | ok d =>
      rw [hd] at h
      cases h
      refine ⟨hc.symm, iff_of_true ⟨d, rfl⟩ hc, ?_, ?_⟩
      · rintro _ ⟨⟩
        exact hd
      · rintro _ _ ⟨⟩
  · rw [if_neg hc] at h
    cases h
    have hother : ¬∃ d, Requirement.other c fields = .docker d := by rintro ⟨_, ⟨⟩⟩
    refine ⟨rfl, iff_of_false hother hc, ?_, ?_⟩
    · rintro _ ⟨⟩
    · rintro _ _ ⟨⟩
      rfl

/-- Requirements that were read represent what is written, each in its place. -/
theorem representsAll_of_requirements {rs : Option (List Requirement)}
    (h : Attributes.requirements list es owner = .ok rs) : RepresentsAll list es rs := by
  rw [Attributes.requirements_eq] at h
  cases hget : es.get? list.key with
  | none =>
    rw [hget] at h
    cases h
    exact .inl hget
  | some v =>
    rw [hget] at h
    cases v with
    | null =>
      cases h
      exact .inr hget
    | sequence items =>
      obtain ⟨rs, hrs, rfl⟩ := Reading.map_eq_ok.mp h
      obtain ⟨written, hwritten, hread⟩ := Reading.bind_eq_ok.mp hrs
      rw [Reading.mapM_eq_ok] at hwritten hread
      -- the items are read with their numbers, which only messages need
      have heach : List.Forall₂ WrittenListed ((items.zipIdx 1).map Prod.fst) written :=
        List.forall₂_map_left_iff.mpr (hwritten.imp fun _ _ => writtenListed_of_eq_ok)
      rw [List.zipIdx_map_fst] at heach
      exact ⟨_, written, hget, .listed heach, hread.imp fun _ _ => represents_of_eq_ok⟩
    | mapping bodies =>
      obtain ⟨rs, hrs, rfl⟩ := Reading.map_eq_ok.mp h
      obtain ⟨written, hwritten, hread⟩ := Reading.bind_eq_ok.mp hrs
      rw [Reading.mapM_eq_ok] at hwritten hread
      exact ⟨_, written, hget, .keyed (hwritten.imp fun _ _ => writtenKeyed_of_eq_ok),
        hread.imp fun _ _ => represents_of_eq_ok⟩
    | bool _ | number _ | string _ | tagged _ _ => exact nomatch h

/-- No requirement that represents what is written hides a Docker requirement. -/
theorem RepresentsAll.not_mem_other {rs : List Requirement}
    (h : RepresentsAll list es (some rs)) (fields : Entries) :
    .other dockerClass fields ∉ rs := by
  obtain ⟨v, written, -, -, heach⟩ := h
  intro hmem
  obtain ⟨i, hi⟩ := List.getElem?_of_mem hmem
  obtain ⟨x, -, hx⟩ := exists_getElem?_of_forall₂ heach hi
  obtain ⟨d, hd⟩ := hx.docker.mpr hx.className.symm
  exact nomatch hd

/-! ### Processes -/

/-- A process represents the mapping that declares it. -/
structure CwlProcess.Represents (es : Entries) (q : CwlProcess) : Prop where
  /-- Its class is the written one. -/
  processClass : HasClass es q.processClass
  /-- Only a workflow has steps. -/
  steps : q.processClass ≠ .workflow → q.steps = []
  /-- Only a workflow has metadata. -/
  metadata : q.processClass ≠ .workflow → q.provenance = []
  /-- The metadata holds known fields only, each once and in their order. -/
  fields : (q.provenance.map fun x => x.1.name).Sublist
    ["version", "author", "citation", "codeRepository", "contributor", "dateCreated", "keywords",
      "license", "releaseNotes"]
  /-- No value in it is null, tags aside. -/
  given : ∀ x ∈ q.provenance, x.2.untag ≠ .null
  /-- The requirements represent what is written. -/
  requirements : RepresentsAll .requirements es q.requirements
  /-- So do the hints. -/
  hints : RepresentsAll .hints es q.hints
  /-- No Docker requirement is kept as one of another kind. -/
  noOther : ∀ fields, .other dockerClass fields ∉ q.effectiveRequirements
  /-- The Docker requirements are all those of their class, in order. -/
  dockers : q.effectiveRequirements.filter (fun r => r.className = dockerClass) =
    q.dockers.map .docker

/-- Requirements that hide no Docker requirement show all of them. -/
theorem filter_className_eq {rs : List Requirement}
    (h : ∀ fields, .other dockerClass fields ∉ rs) :
    rs.filter (fun r => r.className = dockerClass) =
      (rs.filterMap Requirement.docker?).map .docker := by
  induction rs with
  | nil => rfl
  | cons r rs ih =>
    have hrest : ∀ fields, .other dockerClass fields ∉ rs := fun fields hmem =>
      h fields (List.mem_cons_of_mem _ hmem)
    cases r with
    | docker d =>
      have hclass : (Requirement.docker d).className = dockerClass := rfl
      have hdocker : (Requirement.docker d).docker? = some d := rfl
      rw [List.filter_cons_of_pos (by simpa using hclass), List.filterMap_cons_some hdocker,
        List.map_cons, ih hrest]
    | other c fields =>
      have hne : c ≠ dockerClass := by
        rintro rfl
        exact h fields List.mem_cons_self
      have hclass : (Requirement.other c fields).className = c := rfl
      have hother : (Requirement.other c fields).docker? = none := rfl
      rw [List.filter_cons_of_neg (by simpa [hclass] using hne), List.filterMap_cons_none hother,
        ih hrest]

theorem RepresentsAll.not_mem_getD {rs : Option (List Requirement)} (h : RepresentsAll list es rs)
    (fields : Entries) : .other dockerClass fields ∉ rs.getD [] := by
  cases rs with
  | none => exact List.not_mem_nil
  | some rs => exact h.not_mem_other fields

/-- **A process represents the mapping** from which it was read. -/
theorem CwlProcess.represents_of_ofEntries {around : Surroundings} {origin : String}
    {q : CwlProcess} (h : ofEntries around origin es = .ok q) : q.Represents es := by
  obtain ⟨hclass, ⟨_, hsteps⟩, ⟨_, hrequirements⟩, ⟨_, hhints⟩, hmetadata⟩ :=
    readFrom_of_ofEntries h
  have hrequirements := representsAll_of_requirements hrequirements
  have hhints := representsAll_of_requirements hhints
  have hno : ∀ fields, .other dockerClass fields ∉ q.effectiveRequirements := by
    intro fields hmem
    rcases List.mem_append.mp hmem with hmem | hmem
    · exact hrequirements.not_mem_getD fields hmem
    · exact hhints.not_mem_getD fields hmem
  have hfields : (q.provenance.map Prod.fst).Sublist ProvenanceField.all := by
    rw [hmetadata]
    split
    · exact Provenance.map_fst_resolve_sublist
    · exact List.nil_sublist _
  refine ⟨hasClass_of_processClass hclass, fun hc => ?_, fun hc => ?_, ?_, fun x hx => ?_,
    hrequirements, hhints, hno, filter_className_eq hno⟩
  · rw [if_neg hc, Except.ok.injEq] at hsteps
    exact hsteps.symm
  · rw [hmetadata, if_neg hc]
  · have hnames := hfields.map ProvenanceField.name
    rw [List.map_map] at hnames
    exact hnames
  · rw [hmetadata] at hx
    split at hx
    · obtain ⟨before, y, after, -, hgives, -⟩ := Provenance.mem_resolve.mp hx
      exact hgives.2
    · exact absurd hx List.not_mem_nil

/-! ### Positions -/

/-- These are the positions of the processes of a class, in their order. -/
structure Positions (ps : List CwlProcess) (c : ProcessClass) (ns : List ℕ) : Prop where
  /-- They grow. -/
  increasing : ns.Pairwise (· < ·)
  /-- They lead to processes. -/
  inRange : ∀ n ∈ ns, n < ps.length
  /-- They are the positions of the processes of the class, and of no others. -/
  mem_iff : ∀ n, n ∈ ns ↔ ∃ q, ps[n]? = some q ∧ q.processClass = c

theorem mem_positionsFrom {α : Type} {P : α → Bool} {l : List α} {n : ℕ} :
    n ∈ positionsFrom P 0 l ↔ ∃ a, l[n]? = some a ∧ P a = true := by
  rw [positionsFrom_eq, List.mem_map]
  constructor
  · rintro ⟨x, hx, rfl⟩
    obtain ⟨hx, hP⟩ := List.mem_filter.mp hx
    exact ⟨x.1, List.mem_zipIdx_iff_getElem?.mp hx, hP⟩
  · rintro ⟨a, ha, hP⟩
    exact ⟨(a, n), List.mem_filter.mpr ⟨List.mem_zipIdx_iff_getElem?.mpr ha, hP⟩, rfl⟩

theorem pairwise_positionsFrom {α : Type} (P : α → Bool) (l : List α) :
    (positionsFrom P 0 l).Pairwise (· < ·) := by
  have hsublist : (positionsFrom P 0 l).Sublist (l.zipIdx.map (·.2)) := by
    rw [positionsFrom_eq]
    exact List.filter_sublist.map _
  refine List.Pairwise.sublist hsublist ?_
  rw [List.zipIdx_map_snd]
  exact List.pairwise_lt_range'

theorem positions_positionsFrom {P : CwlProcess → Bool} {c : ProcessClass}
    (hP : ∀ q : CwlProcess, P q = true ↔ q.processClass = c) (ps : List CwlProcess) :
    Positions ps c (positionsFrom P 0 ps) := by
  have hmem : ∀ n, n ∈ positionsFrom P 0 ps ↔ ∃ q, ps[n]? = some q ∧ q.processClass = c := by
    intro n
    rw [mem_positionsFrom]
    simp only [hP]
  refine ⟨pairwise_positionsFrom P ps, fun n hn => ?_, hmem⟩
  obtain ⟨q, hq, -⟩ := (hmem n).mp hn
  exact (List.getElem?_eq_some_iff.mp hq).1

/-- No process is of two classes. -/
theorem Positions.disjoint {ps : List CwlProcess} {c c' : ProcessClass} {ns ns' : List ℕ}
    (h : Positions ps c ns) (h' : Positions ps c' ns') (hne : c ≠ c') : ns.Disjoint ns' := by
  intro n hn hn'
  obtain ⟨q, hq, hc⟩ := (h.mem_iff n).mp hn
  obtain ⟨q', hq', hc'⟩ := (h'.mem_iff n).mp hn'
  obtain rfl := Option.some.inj (hq.symm.trans hq')
  exact hne (hc.symm.trans hc')

/-- Looking up the positions never fails. -/
theorem Positions.map_some_filterMap {ps : List CwlProcess} {c : ProcessClass} {ns : List ℕ}
    (h : Positions ps c ns) : (ns.filterMap fun n => ps[n]?).map some = ns.map fun n => ps[n]? := by
  have hsome : ∀ n ∈ ns, ∃ q, ps[n]? = some q := fun n hn =>
    ⟨_, List.getElem?_eq_getElem (h.inRange n hn)⟩
  clear h
  induction ns with
  | nil => rfl
  | cons n ns ih =>
    rw [List.forall_mem_cons] at hsome
    obtain ⟨⟨q, hq⟩, hrest⟩ := hsome
    rw [List.filterMap_cons_some hq, List.map_cons, List.map_cons, ih hrest, hq]

namespace Package

variable {p : Package}

theorem positions_workflows (p : Package) :
    Positions p.processes .workflow p.workflowPositions :=
  positions_positionsFrom (fun _ => CwlProcess.isWorkflow_iff) p.processes

theorem positions_tools (p : Package) :
    Positions p.processes .commandLineTool p.toolPositions :=
  positions_positionsFrom (fun _ => CwlProcess.isTool_iff) p.processes

/-! ### Packages -/

/-- **Every process of a package represents the mapping that declares it**, at the top and
at any depth inside steps.  The positions of the workflows and of the tools grow, have
nothing in common, and lead to all workflows and tools at the top and to nothing else; and
only workflows run anything. -/
theorem represents_of_ofText {text : String} (h : Package.ofText text = .ok p) :
    (∃ v root, Value.ofText text = .ok v ∧ v.asEntries? = some root ∧
      ∀ a q, processAt p.processes a = some q →
        ∃ es, entriesAt root a = some es ∧ q.Represents es) ∧
    Positions p.processes .workflow p.workflowPositions ∧
    Positions p.processes .commandLineTool p.toolPositions ∧
    p.workflowPositions.Disjoint p.toolPositions ∧
    p.workflows.map some = p.workflowPositions.map (fun n => p.processes[n]?) ∧
    p.tools.map some = p.toolPositions.map (fun n => p.processes[n]?) ∧
    ∀ a b, Runs p.processes a b →
      ∃ q, processAt p.processes a = some q ∧ q.processClass = .workflow := by
  obtain ⟨d, hd, hp⟩ := Reading.bind_eq_ok.mp h
  cases hp
  rw [Document.ofText] at hd
  cases hv : Value.ofText text with
  | error e =>
    rw [hv] at hd
    exact nomatch hd
  | ok v =>
    rw [hv] at hd
    obtain ⟨root, hroot, -, -⟩ := exists_of_ofValue_eq_ok hd
    have hrepresents : ∀ a q, processAt d.processes a = some q →
        ∃ es, entriesAt root a = some es ∧ q.Represents es := by
      intro a q hq
      obtain ⟨root', es, origin, hroot', hes, hread⟩ := exists_read_processAt hd hq
      obtain rfl := Option.some.inj (hroot.symm.trans hroot')
      exact ⟨es, hes, CwlProcess.represents_of_ofEntries hread⟩
    have hworkflows := positions_workflows ⟨text, d⟩
    have htools := positions_tools ⟨text, d⟩
    refine ⟨⟨v, root, rfl, hroot, hrepresents⟩, hworkflows, htools,
      hworkflows.disjoint htools (by decide), hworkflows.map_some_filterMap,
      htools.map_some_filterMap, fun a b hruns => ?_⟩
    -- what runs something has a step, and only a workflow has steps
    have hstep : ∃ q, processAt d.processes a = some q ∧ ∃ s, s ∈ q.steps := by
      cases hruns with
      | inline stands step _ => exact ⟨_, stands, _, List.mem_of_getElem? step⟩
      | reference stands step _ _ => exact ⟨_, stands, _, step⟩
    obtain ⟨q, hq, s, hs⟩ := hstep
    obtain ⟨es, -, hes⟩ := hrepresents a q hq
    refine ⟨q, hq, ?_⟩
    by_contra hc
    rw [hes.steps hc] at hs
    exact absurd hs List.not_mem_nil

/-- A packed document of a tool and a workflow that declares another tool in place.  The
workflow gives a null version, and the tool in place has a version, which only a workflow has,
and two hints. -/
def mixedText : String :=
  "$graph:\n- class: CommandLineTool\n- class: Workflow\n  version: !v\n  steps:\n  - run:\n" ++
    "      class: CommandLineTool\n      version: x\n      hints:\n      - class: N\n" ++
    "      - class: DockerRequirement\n"

theorem represents_of_ofText_mixed : ∃ p main inner, Package.ofText mixedText = .ok p ∧
    p.workflowPositions = [1] ∧ p.toolPositions = [0] ∧
    processAt p.processes [1] = some main ∧ processAt p.processes [1, 0] = some inner ∧
    (∀ x ∈ main.provenance, x.2.untag ≠ .null) ∧ inner.provenance = [] ∧ inner.steps = [] ∧
    inner.effectiveRequirements.map Requirement.className = ["N", dockerClass] ∧
    inner.effectiveRequirements.filter (fun r => r.className = dockerClass) =
      inner.dockers.map .docker := by
  have hread : (Package.ofText mixedText).toOption.map (fun p =>
      (processAt p.processes [1]).isSome && (processAt p.processes [1, 0]).any fun inner =>
        decide (inner.processClass = .commandLineTool ∧
          inner.effectiveRequirements.map Requirement.className = ["N", dockerClass] ∧
          p.workflowPositions = [1] ∧ p.toolPositions = [0])) = some true := by decide +kernel
  obtain ⟨p, hp, hplaces⟩ := Option.map_eq_some_iff.mp hread
  rw [Reading.toOption_eq_some] at hp
  rw [Bool.and_eq_true, Option.any_eq_true] at hplaces
  obtain ⟨hmain, inner, hinner, htool⟩ := hplaces
  obtain ⟨main, hmain⟩ := Option.isSome_iff_exists.mp hmain
  obtain ⟨htool, hclasses, hworkflows, htools⟩ := of_decide_eq_true htool
  obtain ⟨⟨v, root, -, -, hrepresents⟩, -⟩ := represents_of_ofText hp
  obtain ⟨es, -, hes⟩ := hrepresents [1] main hmain
  obtain ⟨es', -, hes'⟩ := hrepresents [1, 0] inner hinner
  have hother : inner.processClass ≠ .workflow := by
    rw [htool]
    decide
  exact ⟨p, main, inner, hp, hworkflows, htools, hmain, hinner, hes.given, hes'.metadata hother,
    hes'.steps hother, hclasses, hes'.dockers⟩

end Package

end CwlCompliance
