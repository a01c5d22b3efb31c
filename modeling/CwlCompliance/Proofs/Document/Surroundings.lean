import CwlCompliance.Proofs.Document.Forms
import CwlCompliance.Proofs.Process.Transform

/-!
# What a process owes to its surroundings

A process is read from its own entries.  The rest of the document bears on it through its
metadata only, which is looked for under the declared prefixes and, for some processes, at
the root; and what messages call a process makes no difference to what is read.

## Main definitions

* `CwlProcess.mapMetadata φ` — the metadata of a process, and of those declared in it,
  changed by `φ`.
* `SameUnder φ` — two processes are the same once their metadata is changed by `φ`.
* `SameAttributes` — two mappings give a process the same attributes.

## Main results

* `agree_inputs`, `agree_requirements`, `agree_baseCommand` — attributes agree whoever
  owns them.
* `follows_ofEntries` — a process read from other entries in other surroundings.
* `follows_surroundings` — **the same entries in other surroundings are read as the same
  process, but for its metadata.**
* `agree_surroundings` — and as the same altogether, if these give the same metadata.
-/

namespace CwlCompliance

open Yaml

variable {es es' fields fields' : Entries}

/-! ### Attributes, whoever owns them -/

theorem agree_listedInput_owners (owner owner' : String) (n : ℕ) (item : Value) :
    Agree (Attributes.listedInput owner n item) (Attributes.listedInput owner' n item) := by
  rw [Attributes.listedInput, Attributes.listedInput]
  cases item.asEntries? with
  | none => exact agree_error _ _
  | some fields =>
    exact (agree_text rfl _ _).bind fun id => (agree_text rfl _ _).bind fun label =>
      (agree_doc rfl _ _).bind fun doc => .refl _

theorem agree_inputs (h : es.get? "inputs" = es'.get? "inputs") (owner owner' : String) :
    Agree (Attributes.inputs es owner) (Attributes.inputs es' owner') := by
  rw [Attributes.inputs, Attributes.inputs, ← h]
  cases es.get? "inputs" with
  | none => exact .refl _
  | some v =>
    cases v with
    | sequence items =>
      refine Agree.map (agree_mapM_zipIdx ?_)
      exact List.forall₂_same.mpr fun item _ n => agree_listedInput_owners owner owner' n item
    | mapping entries =>
      refine Agree.map (agree_mapM ?_)
      exact List.forall₂_same.mpr fun e _ => agree_keyedInput e.1 e.2
    | null => exact .refl _
    | bool _ | number _ | string _ | tagged _ _ => exact agree_error _ _

section Requirements

variable (list : RequirementList) (owner owner' : String)

theorem agree_listedRequirement (n : ℕ) (item : Value) :
    Agree (Attributes.listedRequirement list owner n item)
      (Attributes.listedRequirement list owner' n item) := by
  rw [Attributes.listedRequirement, Attributes.listedRequirement]
  cases item.asEntries? with
  | none => exact agree_error _ _
  | some fields =>
    dsimp only
    cases (fields.get? "class").bind Value.asString? with
    | none => exact agree_error _ _
    | some c => exact .refl _

theorem agree_keyedRequirement (key body : Value) :
    Agree (Attributes.keyedRequirement list owner key body)
      (Attributes.keyedRequirement list owner' key body) := by
  rw [Attributes.keyedRequirement, Attributes.keyedRequirement]
  cases key.asString? with
  | none => exact agree_error _ _
  | some c =>
    cases body with
    | mapping fields => exact .refl _
    | null => exact .refl _
    | bool _ | number _ | string _ | sequence _ | tagged _ _ => exact agree_error _ _

theorem agree_requirement (c : String) (fields : Entries) :
    Agree (Attributes.requirement list owner c fields)
      (Attributes.requirement list owner' c fields) := by
  rw [Attributes.requirement, Attributes.requirement]
  by_cases hc : c = dockerClass
  · rw [if_pos hc, if_pos hc]
    cases Docker.ofEntries fields with
    | ok d => exact .refl _
    | error e => exact agree_error _ _
  · rw [if_neg hc, if_neg hc]
    exact .refl _

theorem agree_requirements (h : es.get? list.key = es'.get? list.key) :
    Agree (Attributes.requirements list es owner) (Attributes.requirements list es' owner') := by
  have hrequirement : ∀ shaped : List (String × Entries),
      Agree (shaped.mapM (Attributes.readRequirement list owner))
        (shaped.mapM (Attributes.readRequirement list owner')) := by
    intro shaped
    exact agree_mapM <| List.forall₂_same.mpr fun x _ => agree_requirement list owner owner' x.1 x.2
  rw [Attributes.requirements_eq, Attributes.requirements_eq, ← h]
  cases es.get? list.key with
  | none => exact .refl _
  | some v =>
    cases v with
    | sequence items =>
      refine Agree.map (Agree.bind (agree_mapM_zipIdx ?_) hrequirement)
      exact List.forall₂_same.mpr fun item _ n => agree_listedRequirement list owner owner' n item
    | mapping bodies =>
      refine Agree.map (Agree.bind (agree_mapM ?_) hrequirement)
      exact List.forall₂_same.mpr fun e _ => agree_keyedRequirement list owner owner' e.1 e.2
    | null => exact .refl _
    | bool _ | number _ | string _ | tagged _ _ => exact agree_error _ _

end Requirements

theorem agree_baseCommand (h : es.get? "baseCommand" = es'.get? "baseCommand")
    (owner owner' : String) :
    Agree (Attributes.baseCommand es owner) (Attributes.baseCommand es' owner') := by
  rw [Attributes.baseCommand, Attributes.baseCommand, ← h]
  cases es.get? "baseCommand" with
  | none => exact .refl _
  | some v =>
    cases v with
    | sequence items =>
      refine Agree.map (agree_mapM ?_)
      rw [List.forall₂_same]
      intro item _
      cases item.scalarText? with
      | none => exact agree_error _ _
      | some s => exact .refl _
    | null | bool _ | number _ | string _ => exact .refl _
    | mapping _ | tagged _ _ => exact agree_error _ _

theorem agree_processClass (h : es.get? "class" = es'.get? "class") (owner owner' : String) :
    Agree (Attributes.processClass es owner) (Attributes.processClass es' owner') := by
  rw [Attributes.processClass, Attributes.processClass, ← h]
  cases (es.get? "class").bind Value.asString? with
  | none => exact agree_error _ _
  | some name =>
    dsimp only
    cases ProcessClass.ofName? name with
    | none => exact agree_error _ _
    | some c => exact .refl _

/-- Two mappings give a process the same class, identifier and other attributes; its steps
and its metadata are left open. -/
structure SameAttributes (es es' : Entries) : Prop where
  /-- The class is the same. -/
  processClass : es.get? "class" = es'.get? "class"
  /-- So is the identifier. -/
  id : es.get? "id" = es'.get? "id"
  /-- So is the title. -/
  label : es.get? "label" = es'.get? "label"
  /-- So is the description. -/
  doc : es.get? "doc" = es'.get? "doc"
  /-- So are the inputs. -/
  inputs : es.get? "inputs" = es'.get? "inputs"
  /-- So are what is required and what would be liked. -/
  requirements : ∀ list : RequirementList, es.get? list.key = es'.get? list.key
  /-- So is the command. -/
  baseCommand : es.get? "baseCommand" = es'.get? "baseCommand"

theorem SameAttributes.refl (es : Entries) : SameAttributes es es :=
  ⟨rfl, rfl, rfl, rfl, rfl, fun _ => rfl, rfl⟩

/-! ### Metadata changed throughout -/

variable {φ : Provenance → Provenance}

/-- A process with its own metadata changed. -/
def CwlProcess.withMetadata (φ : Provenance → Provenance) (p : CwlProcess) : CwlProcess :=
  { p with provenance := φ p.provenance }

/-- A process with its metadata changed, and that of the processes declared in it. -/
def CwlProcess.mapMetadata (φ : Provenance → Provenance) : CwlProcess → CwlProcess :=
  transform (withMetadata φ) fun locator => locator

/-- A target with the metadata of what it declares in place changed. -/
def Target.mapMetadata (φ : Provenance → Provenance) : Target → Target :=
  CwlProcess.transformTarget (CwlProcess.withMetadata φ) fun locator => locator

theorem CwlProcess.mapMetadata_eq (p : CwlProcess) : p.mapMetadata φ =
    { p with
      provenance := φ p.provenance
      steps := p.steps.map fun s => ⟨s.id, s.run.mapMetadata φ⟩ } := by
  rw [mapMetadata, transform_eq, transformSteps_eq_map]
  rfl

theorem Target.mapMetadata_inline (p : CwlProcess) :
    Target.mapMetadata φ (.inline p) = .inline (p.mapMetadata φ) := rfl

/-- Two processes are the same once their metadata is changed throughout. -/
def SameUnder (φ : Provenance → Provenance) (p q : CwlProcess) : Prop :=
  p.mapMetadata φ = q.mapMetadata φ

/-- Two targets are the same once the metadata of what they declare is changed. -/
def Target.SameUnder (φ : Provenance → Provenance) (t u : Target) : Prop :=
  t.mapMetadata φ = u.mapMetadata φ

/-- Two steps have the same identifier and run the same under such a change. -/
structure Step.SameUnder (φ : Provenance → Provenance) (s t : Step) : Prop where
  /-- Their identifiers are the same. -/
  id : s.id = t.id
  /-- What they run is. -/
  run : s.run.SameUnder φ t.run

/-- Processes that are the same under no change are the same. -/
theorem SameUnder.eq {p q : CwlProcess} (h : SameUnder (fun m => m) p q) : p = q := by
  have hkeep : ∀ p : CwlProcess, p.mapMetadata (fun m => m) = p := by
    intro p
    induction p using CwlProcess.inline_induction with
    | h p ih =>
      have hsteps : (p.steps.map fun s => ⟨s.id, s.run.mapMetadata fun m => m⟩) = p.steps := by
        refine (List.map_congr_left fun s hs => ?_).trans (List.map_id _)
        obtain ⟨id, run⟩ := s
        cases run with
        | unspecified | reference _ => rfl
        | inline q =>
          dsimp only
          rw [Target.mapMetadata_inline, ih _ hs q rfl]
          rfl
      rw [CwlProcess.mapMetadata_eq, hsteps]
      cases p
      rfl
  rwa [SameUnder, hkeep, hkeep] at h

/-! ### Reading in other surroundings -/

section Reading

variable {around around' : Surroundings}

theorem follows_ofAttributes (h : SameAttributes es es')
    (hmetadata : φ (Provenance.resolve around.prefixes es around.root) =
      φ (Provenance.resolve around'.prefixes es' around'.root))
    (c : ProcessClass) (id : Option String) (name name' : String) {steps steps' : List Step}
    (hsteps : List.Forall₂ (Step.SameUnder φ) steps steps') :
    Follows (SameUnder φ) (CwlProcess.ofAttributes around es c id name steps)
      (CwlProcess.ofAttributes around' es' c id name' steps') := by
  have hmapped : (steps.map fun s => (⟨s.id, s.run.mapMetadata φ⟩ : Step)) =
      steps'.map fun s => ⟨s.id, s.run.mapMetadata φ⟩ := by
    rw [← List.forall₂_eq_eq_eq, List.forall₂_map_left_iff, List.forall₂_map_right_iff]
    exact hsteps.imp fun s t hst => by rw [hst.id, hst.run]
  rw [CwlProcess.ofAttributes, CwlProcess.ofAttributes]
  refine (agree_text h.label _ _).bind_follows fun label =>
    (agree_doc h.doc _ _).bind_follows fun doc =>
    (agree_inputs h.inputs _ _).bind_follows fun inputs =>
    (agree_requirements _ _ _ (h.requirements _)).bind_follows fun requirements =>
    (agree_requirements _ _ _ (h.requirements _)).bind_follows fun hints =>
    (agree_baseCommand h.baseCommand _ _).bind_follows fun baseCommand => follows_ok ?_
  rw [SameUnder, CwlProcess.mapMetadata_eq, CwlProcess.mapMetadata_eq, hmapped]
  by_cases hc : c = .workflow
  · rw [if_pos hc, if_pos hc, hmetadata]
  · rw [if_neg hc, if_neg hc]

/-- A process read from other entries in other surroundings. -/
theorem follows_ofEntries (h : SameAttributes es es')
    (hmetadata : φ (Provenance.resolve around.prefixes es around.root) =
      φ (Provenance.resolve around'.prefixes es' around'.root))
    (hsteps : ∀ owner owner', Follows (List.Forall₂ (Step.SameUnder φ))
      (Steps.ofEntries around.prefixes owner es) (Steps.ofEntries around'.prefixes owner' es'))
    (origin origin' : String) :
    Follows (SameUnder φ) (CwlProcess.ofEntries around origin es)
      (CwlProcess.ofEntries around' origin' es') := by
  rw [CwlProcess.ofEntries_eq, CwlProcess.ofEntries_eq]
  refine (agree_processClass h.processClass _ _).bind_follows fun c =>
    (agree_text h.id _ _).bind_follows fun id => Follows.bind ?_ fun steps steps' hsame =>
    follows_ofAttributes h hmetadata c id _ _ hsame
  by_cases hc : c = .workflow
  · rw [if_pos hc, if_pos hc]
    exact hsteps _ _
  · rw [if_neg hc, if_neg hc]
    exact follows_ok .nil

end Reading

/-! ### Steps -/

section Steps

variable {prefixes prefixes' : List String}

/-- A process declared in place by the entries `es` is read from `es'` too, and is the same
but for its metadata. -/
def ReadInPlace (φ : Provenance → Provenance) (prefixes prefixes' : List String)
    (es es' : Entries) : Prop :=
  ∀ origin origin', Follows (SameUnder φ) (CwlProcess.ofEntries ⟨prefixes, none⟩ origin es)
    (CwlProcess.ofEntries ⟨prefixes', none⟩ origin' es')

/-- What a step runs, according to its fields, is read from other fields too. -/
def RunRead (φ : Provenance → Provenance) (prefixes prefixes' : List String)
    (fields fields' : Entries) : Prop :=
  ∀ owner owner', Follows (Target.SameUnder φ) (Steps.targetIn prefixes owner fields)
    (Steps.targetIn prefixes' owner' fields')

/-- A step is read from another value too: under the same identifier it runs the same. -/
def StepRead (φ : Provenance → Provenance) (prefixes prefixes' : List String)
    (item item' : Value) : Prop :=
  ∀ fields, item.asEntries? = some fields → ∃ fields', item'.asEntries? = some fields' ∧
    fields.get? "id" = fields'.get? "id" ∧ RunRead φ prefixes prefixes' fields fields'

/-- The steps that a value gives are read from another value too, one by one. -/
inductive StepsRead (φ : Provenance → Provenance) (prefixes prefixes' : List String) :
    Value → Value → Prop
  /-- They form a list. -/
  | listed {items items' : List Value}
      (steps : List.Forall₂ (StepRead φ prefixes prefixes') items items') :
      StepsRead φ prefixes prefixes' (.sequence items) (.sequence items')
  /-- They form a mapping. -/
  | keyed {bodies bodies' : Entries} (steps : List.Forall₂ (fun e e' =>
      e.1 = e'.1 ∧ StepRead φ prefixes prefixes' e.2 e'.2) bodies bodies') :
      StepsRead φ prefixes prefixes' (.mapping bodies) (.mapping bodies')
  /-- There are none, whatever the value is. -/
  | other {v : Value} (notList : ∀ items, v ≠ .sequence items)
      (notMapping : ∀ bodies, v ≠ .mapping bodies) : StepsRead φ prefixes prefixes' v v

theorem follows_targetOf {v v' : Value}
    (h : v = v' ∧ (∀ es, v = .mapping es → ReadInPlace φ prefixes prefixes' es es) ∨
      ∃ es es', v = .mapping es ∧ v' = .mapping es' ∧ ReadInPlace φ prefixes prefixes' es es')
    (owner owner' : String) : Follows (Target.SameUnder φ) (Steps.targetOf prefixes owner v)
      (Steps.targetOf prefixes' owner' v') := by
  have hmapping : ∀ {es es' : Entries}, ReadInPlace φ prefixes prefixes' es es' →
      Follows (Target.SameUnder φ) (Steps.targetOf prefixes owner (.mapping es))
        (Steps.targetOf prefixes' owner' (.mapping es')) := by
    intro es es' hread
    rw [Steps.targetOf_mapping, Steps.targetOf_mapping]
    refine (hread owner owner').map fun p p' hp => ?_
    rw [Target.SameUnder, Target.mapMetadata_inline, Target.mapMetadata_inline, hp]
  rcases h with ⟨rfl, hread⟩ | ⟨es, es', rfl, rfl, hread⟩
  · cases v with
    | mapping es => exact hmapping (hread es rfl)
    | null | string _ =>
      rw [Steps.targetOf, Steps.targetOf]
      exact follows_ok rfl
    | bool _ | number _ | sequence _ | tagged _ _ =>
      rw [Steps.targetOf]
      · exact follows_error _
      all_goals simp
  · exact hmapping hread

theorem follows_ofFields {fields fields' : Entries}
    (h : RunRead φ prefixes prefixes' fields fields')
    (id : Option String) (owner owner' : String) : Follows (Step.SameUnder φ)
      (Steps.ofFields prefixes owner id fields) (Steps.ofFields prefixes' owner' id fields') :=
  (h _ _).map fun _ _ hrun => ⟨rfl, hrun⟩

theorem follows_ofItem {item item' : Value} (h : StepRead φ prefixes prefixes' item item') (n : ℕ)
    (owner owner' : String) : Follows (Step.SameUnder φ) (Steps.ofItem prefixes owner n item)
      (Steps.ofItem prefixes' owner' n item') := by
  rw [Steps.ofItem_eq, Steps.ofItem_eq]
  cases hitem : item.asEntries? with
  | none => exact follows_error _
  | some fields =>
    obtain ⟨fields', hitem', hid, hrun⟩ := h fields hitem
    rw [hitem']
    exact (agree_text hid _ _).bind_follows fun id => follows_ofFields hrun id _ _

theorem follows_ofBody {body body' : Value} (h : StepRead φ prefixes prefixes' body body')
    (id : Option String) (owner owner' : String) : Follows (Step.SameUnder φ)
      (Steps.ofBody prefixes owner id body) (Steps.ofBody prefixes' owner' id body') := by
  rw [Steps.ofBody_eq, Steps.ofBody_eq]
  cases hbody : body.asEntries? with
  | none => exact follows_error _
  | some fields =>
    obtain ⟨fields', hbody', -, hrun⟩ := h fields hbody
    rw [hbody']
    exact follows_ofFields hrun id _ _

theorem follows_steps
    (h : Option.Rel (StepsRead φ prefixes prefixes') (es.get? "steps") (es'.get? "steps"))
    (owner owner' : String) : Follows (List.Forall₂ (Step.SameUnder φ))
      (Steps.ofEntries prefixes owner es) (Steps.ofEntries prefixes' owner' es') := by
  rw [Steps.ofEntries_eq, Steps.ofEntries_eq]
  generalize es.get? "steps" = value at h
  generalize es'.get? "steps" = value' at h
  cases h with
  | none => exact follows_ok .nil
  | @some v _ hread =>
    dsimp only
    cases hread with
    | listed steps =>
      rw [Steps.ofValue, Steps.ofValue, Steps.ofItems_eq, Steps.ofItems_eq]
      refine follows_mapM (forall₂_zipIdx (steps.imp ?_) 1)
      exact fun item item' hitem n => follows_ofItem hitem n owner owner'
    | keyed steps =>
      rw [Steps.ofValue, Steps.ofValue, Steps.ofKeyed_eq, Steps.ofKeyed_eq]
      refine follows_mapM (steps.imp ?_)
      rintro ⟨key, body⟩ ⟨_, body'⟩ ⟨rfl, hbody⟩
      exact follows_ofBody hbody _ owner owner'
    | other notList notMapping =>
      cases v with
      | null =>
        rw [Steps.ofValue, Steps.ofValue]
        exact follows_ok .nil
      | sequence items => exact absurd rfl (notList items)
      | mapping bodies => exact absurd rfl (notMapping bodies)
      | bool _ | number _ | string _ | tagged _ _ =>
        rw [Steps.ofValue]
        · exact follows_error _
        all_goals simp

/-! ### The same entries -/

theorem stepRead_same {item : Value} (h : ∀ fields es, item.asEntries? = some fields →
      fields.get? "run" = some (.mapping es) → ReadInPlace φ prefixes prefixes' es es) :
    StepRead φ prefixes prefixes' item item := by
  intro fields hitem
  refine ⟨fields, hitem, rfl, fun owner owner' => ?_⟩
  rw [Steps.targetIn_eq, Steps.targetIn_eq]
  cases hrun : fields.get? "run" with
  | none => exact follows_ok rfl
  | some v =>
    refine follows_targetOf (.inl ⟨rfl, ?_⟩) owner owner'
    rintro es rfl
    exact h fields es hitem hrun

theorem stepsRead_same (h : ∀ es', Declares es es' → ReadInPlace φ prefixes prefixes' es' es') :
    Option.Rel (StepsRead φ prefixes prefixes') (es.get? "steps") (es.get? "steps") := by
  cases hsteps : es.get? "steps" with
  | none => exact .none
  | some v =>
    refine .some ?_
    cases v with
    | sequence items =>
      refine .listed (List.forall₂_same.mpr fun item hitem => stepRead_same ?_)
      exact fun fields es' hfields hrun => h es' (.listed hsteps hitem hfields hrun)
    | mapping bodies =>
      refine .keyed (List.forall₂_same.mpr fun e he => ⟨rfl, stepRead_same ?_⟩)
      exact fun fields es' hfields hrun => h es' (.keyed hsteps he hfields hrun)
    | null | bool _ | number _ | string _ | tagged _ _ =>
      exact .other (by simp) (by simp)

/-- A process declared in place is read under other prefixes as the same process, but for its
metadata. -/
theorem readInPlace_same (hmetadata : ∀ es, φ (Provenance.resolve prefixes es none) =
    φ (Provenance.resolve prefixes' es none)) (es : Entries) :
    ReadInPlace φ prefixes prefixes' es es := by
  induction es using declares_induction with
  | h es ih =>
    have hsteps : ∀ owner owner', Follows (List.Forall₂ (Step.SameUnder φ))
        (Steps.ofEntries prefixes owner es) (Steps.ofEntries prefixes' owner' es) :=
      follows_steps (stepsRead_same ih)
    exact follows_ofEntries (.refl es) (hmetadata es) hsteps

end Steps

/-- **The same entries in other surroundings are read as the same process, but for its
metadata**, whatever messages call the process. -/
theorem follows_surroundings {around around' : Surroundings}
    (hown : ∀ es, φ (Provenance.resolve around.prefixes es around.root) =
      φ (Provenance.resolve around'.prefixes es around'.root))
    (hinner : ∀ es, φ (Provenance.resolve around.prefixes es none) =
      φ (Provenance.resolve around'.prefixes es none)) (es : Entries) (origin origin' : String) :
    Follows (SameUnder φ) (CwlProcess.ofEntries around origin es)
      (CwlProcess.ofEntries around' origin' es) := by
  have hinplace : ∀ es', ReadInPlace φ around.prefixes around'.prefixes es' es' :=
    readInPlace_same hinner
  exact follows_ofEntries (.refl es) (hown es)
    (follows_steps (stepsRead_same fun es' _ => hinplace es')) origin origin'

/-- In surroundings that give the same metadata they are read as the same process. -/
theorem agree_surroundings {around around' : Surroundings}
    (hprefixes : around.prefixes = around'.prefixes)
    (hown : ∀ es, Provenance.resolve around.prefixes es around.root =
      Provenance.resolve around'.prefixes es around'.root)
    (es : Entries) (origin origin' : String) :
    Agree (CwlProcess.ofEntries around origin es) (CwlProcess.ofEntries around' origin' es) := by
  have hread : ∀ {around around' : Surroundings} {origin origin' : String},
      around.prefixes = around'.prefixes →
      (∀ es, Provenance.resolve around.prefixes es around.root =
        Provenance.resolve around'.prefixes es around'.root) →
      ∀ p, CwlProcess.ofEntries around origin es = .ok p →
        CwlProcess.ofEntries around' origin' es = .ok p := by
    intro around around' origin origin' hprefixes hown p hp
    have hsame := @follows_surroundings (fun m => m) around around' hown
      (fun es => by rw [hprefixes]) es origin origin'
    obtain ⟨q, hq, hpq⟩ := hsame p hp
    rw [hq, hpq.eq]
  exact fun p => ⟨hread hprefixes hown p, hread hprefixes.symm (fun es => (hown es).symm) p⟩

end CwlCompliance
