import CwlCompliance.Checks.Unsupported
import CwlCompliance.Proofs.Lists
import CwlCompliance.Proofs.Package.Scoping
import CwlCompliance.Proofs.Text.Blank

/-!
# When the rules find no error

A rule asks for elements of what is in scope.  Its findings hold no error exactly when
every element that must be there is there: the elements of a tool, of a workflow and
of an input, and of the metadata the version alone.

## Main definitions

* `Harmless` — a list of findings that holds no error.
* `GoodTool`, `GoodWorkflow`, `GoodInput` — what tools, workflows and inputs must be
  like, said without the checks.
* `Rule.each?`, `Rule.subject` — what a rule finds about one process, and of which class.

## Main results

* `harmless_classFindings_iff`, `harmless_scopedFindings_iff`, … — when each kind of
  finding holds no error.
* `Rule.rule_of_mem_findings` — what a rule finds is found under it.
* `forall_harmless_findings_iff` — when no rule finds an error.
* `unsupported_eq_nil_iff` — when no tool uses the unsupported construct.
* `classFindings_congr`, `Package.selected_congr` — what the findings depend on.
-/

namespace CwlCompliance

/-! ### Findings without errors -/

/-- A list of findings that holds no error. -/
def Harmless (fs : List Finding) : Prop := ∀ f ∈ fs, f.severity = .hint

@[simp] theorem harmless_nil : Harmless [] := by simp [Harmless]

@[simp] theorem harmless_append {fs gs : List Finding} :
    Harmless (fs ++ gs) ↔ Harmless fs ∧ Harmless gs := by
  simp only [Harmless, List.mem_append, or_imp, forall_and]

theorem harmless_flatMap {α : Type*} {l : List α} {find : α → List Finding} :
    Harmless (l.flatMap find) ↔ ∀ a ∈ l, Harmless (find a) := by
  simp only [Harmless, List.mem_flatMap]
  constructor
  · intro h a ha f hf
    exact h f ⟨a, ha, hf⟩
  · rintro h f ⟨a, ha, hf⟩
    exact h a ha f hf

theorem not_harmless_singleton {f : Finding} (hf : f.severity = .error) : ¬Harmless [f] := by
  intro h
  have := h f List.mem_cons_self
  rw [hf] at this
  exact absurd this (by decide)

/-- A finding that an element is missing is an error, so there is none of them exactly
when every element is there. -/
theorem harmless_missing_iff {ε : Type} {all : List ε} {present : ε → Bool} {rule : Rule}
    {owner : String} {name : ε → String} :
    Harmless ((all.filter fun e => !present e).map fun e => .missing rule owner (name e)) ↔
      ∀ e ∈ all, present e = true := by
  constructor
  · intro h e he
    by_contra hpresent
    have hmem : e ∈ all.filter fun e => !present e := by
      rw [List.mem_filter]
      exact ⟨he, by simpa using hpresent⟩
    exact absurd (h _ (List.mem_map_of_mem hmem)) (by simp [Finding.severity])
  · intro h f hf
    obtain ⟨e, he, -⟩ := List.mem_map.mp hf
    obtain ⟨hall, hpresent⟩ := List.mem_filter.mp he
    rw [h e hall] at hpresent
    simp at hpresent

/-- The findings about numbered things hold no error when those about each hold none,
whatever the number. -/
theorem harmless_zipIdx_iff {α : Type*} {l : List α} (g : ℕ → α → List Finding)
    {P : α → Prop} (h : ∀ n a, Harmless (g n a) ↔ P a) :
    Harmless ((l.zipIdx 1).flatMap fun x => g x.2 x.1) ↔ ∀ a ∈ l, P a := by
  rw [harmless_flatMap]
  simp only [h]
  exact forall_mem_zipIdx_fst

/-! ### What must be there -/

/-- A text is given that is not all white space. -/
def NotBlank (s : Option String) : Prop :=
  ∃ text, s = some text ∧ ∃ c ∈ text.toList, c ∉ Text.whiteSpace

/-- What an input of a workflow must be like. -/
structure GoodInput (i : Input) : Prop where
  /-- It has an identifier with a short name. -/
  name : ∃ id, i.id = some id ∧ shortName id ≠ ""
  /-- It has a title. -/
  label : i.label ≠ none
  /-- It has a description. -/
  doc : i.doc ≠ none

/-- What a workflow must be like. -/
structure GoodWorkflow (w : CwlProcess) : Prop where
  /-- It has an identifier with a local name. -/
  name : ∃ id, w.id = some id ∧ localName id ≠ ""
  /-- It has a title. -/
  label : w.label ≠ none
  /-- It has a description. -/
  doc : w.doc ≠ none
  /-- Its metadata gives a version. -/
  version : ∃ v, (ProvenanceField.version, v) ∈ w.provenance
  /-- Its inputs are as they must be. -/
  inputs : ∀ inputs, w.inputs = some inputs → ∀ i ∈ inputs, GoodInput i

/-- What a tool must be like. -/
structure GoodTool (t : CwlProcess) : Prop where
  /-- It has an identifier with a local name. -/
  name : ∃ id, t.id = some id ∧ localName id ≠ ""
  /-- It has a command. -/
  baseCommand : t.baseCommand ≠ none
  /-- It has inputs. -/
  inputs : t.inputs ≠ none
  /-- It has requirements. -/
  requirements : t.requirements ≠ none
  /-- The first Docker requirement, requirements before hints, names an image. -/
  image : ∃ before d after,
    t.requirements.getD [] ++ t.hints.getD [] = before ++ .docker d :: after ∧
      (∀ d', .docker d' ∉ before) ∧ NotBlank d.pull
  /-- No Docker requirement sets the output directory. -/
  noOutputDirectory : ∀ d, .docker d ∈ t.requirements.getD [] ++ t.hints.getD [] →
    ¬NotBlank d.outputDirectory

theorem notBlank_iff {s : Option String} : NotBlank s ↔ Docker.isGiven s = true := by
  cases s with
  | none => simp [NotBlank, Docker.isGiven]
  | some text => simp [NotBlank, Docker.isGiven, Text.isBlank, Text.isSpace_eq_false_iff]

theorem isSome_properId_iff {p : CwlProcess} :
    p.properId.isSome = true ↔ ∃ id, p.id = some id ∧ localName id ≠ "" := by
  cases hid : p.id with
  | none => simp [CwlProcess.properId, CwlProcess.localId, hid]
  | some id =>
    simp [CwlProcess.properId, CwlProcess.localId, hid]

theorem isSome_properName_iff {i : Input} :
    i.properName.isSome = true ↔ ∃ id, i.id = some id ∧ shortName id ≠ "" := by
  cases hid : i.id with
  | none => simp [Input.properName, hid]
  | some id =>
    simp [Input.properName, hid]

theorem Provenance.has_eq_true_iff {m : Provenance} {f : ProvenanceField} :
    m.has f = true ↔ ∃ v, (f, v) ∈ m := by
  simp [has, get?, List.lookup_isSome_iff]

theorem any_hasPull_docker?_iff {t : CwlProcess} : t.docker?.any Docker.hasPull = true ↔
    ∃ before d after, t.effectiveRequirements = before ++ .docker d :: after ∧
      (∀ d', .docker d' ∉ before) ∧ NotBlank d.pull := by
  have hdocker? : ∀ {r : Requirement} {d : Docker}, r.docker? = some d ↔ r = .docker d := by
    intro r d
    cases r <;> simp [Requirement.docker?]
  have hnone : ∀ {before : List Requirement},
      (∀ r ∈ before, r.docker? = none) ↔ ∀ d', .docker d' ∉ before := by
    intro before
    constructor
    · intro h d' hd'
      simpa [Requirement.docker?] using h _ hd'
    · intro h r hr
      cases r with
      | docker d' => exact absurd hr (h d')
      | other => rfl
  simp only [Option.any_eq_true, CwlProcess.docker?, CwlProcess.dockers, List.head?_filterMap,
    List.findSome?_eq_some_iff, hdocker?, hnone, Docker.hasPull, ← notBlank_iff]
  constructor
  · rintro ⟨d, ⟨before, r, after, hreq, rfl, hbefore⟩, hpull⟩
    exact ⟨before, d, after, hreq, hbefore, hpull⟩
  · rintro ⟨before, d, after, hreq, hbefore, hpull⟩
    exact ⟨d, ⟨before, _, after, hreq, rfl, hbefore⟩, hpull⟩

theorem usesUnsupported_eq_false_iff {t : CwlProcess} : t.usesUnsupported = false ↔
    ∀ d, .docker d ∈ t.effectiveRequirements → ¬NotBlank d.outputDirectory := by
  rw [CwlProcess.usesUnsupported, List.any_eq_false]
  simp only [CwlProcess.dockers, List.mem_filterMap, Docker.hasOutputDirectory, notBlank_iff]
  constructor
  · intro h d hd
    exact h d ⟨_, hd, rfl⟩
  · rintro h d ⟨r, hr, hd⟩
    cases r with
    | docker d' =>
      rw [Requirement.docker?, Option.some.injEq] at hd
      subst hd
      exact h d' hr
    | other => simp [Requirement.docker?] at hd

/-! ### Findings about one process -/

theorem harmless_toolFindings_iff {n : ℕ} {t : CwlProcess} :
    Harmless (toolFindings n t) ↔ ∀ e ∈ ToolElement.all, e.present t = true :=
  harmless_missing_iff

theorem goodTool_iff {t : CwlProcess} : GoodTool t ↔
    (∀ e ∈ ToolElement.all, e.present t = true) ∧ t.usesUnsupported = false := by
  simp only [ToolElement.all, List.forall_mem_cons, List.not_mem_nil, false_implies, implies_true,
    ToolElement.present, isSome_properId_iff, and_true, usesUnsupported_eq_false_iff,
    any_hasPull_docker?_iff]
  simp only [Option.isSome_iff_ne_none]
  constructor
  · rintro ⟨h1, h2, h3, h4, h5, h6⟩
    exact ⟨⟨h1, h2, h3, h4, h5⟩, h6⟩
  · rintro ⟨⟨h1, h2, h3, h4, h5⟩, h6⟩
    exact ⟨h1, h2, h3, h4, h5, h6⟩

theorem harmless_workflowFindings_iff {n : ℕ} {w : CwlProcess} :
    Harmless (workflowFindings n w) ↔ ∀ e ∈ WorkflowElement.all, e.present w = true :=
  harmless_missing_iff

theorem goodInput_iff {i : Input} : GoodInput i ↔ ∀ e ∈ InputElement.all, e.present i = true := by
  simp only [InputElement.all, List.forall_mem_cons, List.not_mem_nil, false_implies, implies_true,
    InputElement.present, isSome_properName_iff, and_true]
  simp only [Option.isSome_iff_ne_none]
  constructor
  · rintro ⟨h1, h2, h3⟩
    exact ⟨h1, h2, h3⟩
  · rintro ⟨h1, h2, h3⟩
    exact ⟨h1, h2, h3⟩

theorem harmless_workflowInputFindings_iff {n : ℕ} {w : CwlProcess} :
    Harmless (workflowInputFindings n w) ↔ ∀ i ∈ w.inputs.getD [], GoodInput i := by
  refine harmless_zipIdx_iff (inputFindings (w.display n)) fun k i => ?_
  rw [goodInput_iff]
  exact harmless_missing_iff

/-- Of the metadata only the version must be there. -/
theorem harmless_metadataFindings_iff {n : ℕ} {w : CwlProcess} :
    Harmless (metadataFindings n w) ↔ ∃ v, (ProvenanceField.version, v) ∈ w.provenance := by
  have hfield : ∀ (owner : String) (f : ProvenanceField),
      (missingField owner f).severity = .hint ↔ f ≠ .version := by
    intro owner f
    cases f <;> simp [missingField, Finding.severity]
  rw [← Provenance.has_eq_true_iff]
  constructor
  · intro h
    by_contra hversion
    have hmem : ProvenanceField.version ∈
        ProvenanceField.all.filter fun f => !w.provenance.has f := by
      rw [List.mem_filter]
      exact ⟨by decide, by simpa using hversion⟩
    exact (hfield _ _).mp (h _ (List.mem_map_of_mem hmem)) rfl
  · intro h f hf
    obtain ⟨field, hmem, rfl⟩ := List.mem_map.mp hf
    rw [hfield]
    rintro rfl
    have := (List.mem_filter.mp hmem).2
    rw [h] at this
    simp at this

theorem goodWorkflow_iff {w : CwlProcess} : GoodWorkflow w ↔
    (∀ e ∈ WorkflowElement.all, e.present w = true) ∧ (∀ i ∈ w.inputs.getD [], GoodInput i) ∧
      ∃ v, (ProvenanceField.version, v) ∈ w.provenance := by
  have hinputs : (∀ i ∈ w.inputs.getD [], GoodInput i) ↔
      ∀ inputs, w.inputs = some inputs → ∀ i ∈ inputs, GoodInput i := by
    cases w.inputs <;> simp
  simp only [WorkflowElement.all, List.forall_mem_cons, List.not_mem_nil, false_implies,
    implies_true, WorkflowElement.present, isSome_properId_iff, and_true, hinputs]
  simp only [Option.isSome_iff_ne_none]
  constructor
  · rintro ⟨h1, h2, h3, h4, h5⟩
    exact ⟨⟨h1, h2, h3⟩, h5, h4⟩
  · rintro ⟨⟨h1, h2, h3⟩, h5, h4⟩
    exact ⟨h1, h2, h3, h4, h5⟩

/-! ### Findings about a package -/

theorem harmless_classFindings_iff {p : Package} : Harmless (classFindings p) ↔
    (∃ w ∈ p.processes, w.processClass = .workflow) ∧
      ∃ t ∈ p.processes, t.processClass = .commandLineTool := by
  have hif : ∀ (c : ProcessClass) (l : List CwlProcess),
      Harmless (if l.isEmpty then [.noProcess .documentClasses c] else []) ↔ ∃ q, q ∈ l := by
    intro c l
    cases l with
    | nil => simpa using not_harmless_singleton (f := .noProcess .documentClasses c) rfl
    | cons q l => exact iff_of_true harmless_nil ⟨q, List.mem_cons_self⟩
  rw [classFindings, harmless_append, hif, hif]
  simp only [Package.workflows_eq_filter, Package.tools_eq_filter, List.mem_filter,
    CwlProcess.isWorkflow_iff, CwlProcess.isTool_iff]

/-- An unknown entry point is itself an error. -/
theorem harmless_scopedFindings_iff {rule : Rule} {s : Selection} {found : List Finding} :
    Harmless (scopedFindings rule s found) ↔ s.scope.missing = none ∧ Harmless found := by
  rw [scopedFindings]
  cases s.scope.missing with
  | none => simp
  | some name =>
    simpa using not_harmless_singleton (f := .unknownEntryPoint rule name) rfl

theorem harmless_eachFindings_iff (g : ℕ → CwlProcess → List Finding) {ps : List CwlProcess}
    {P : CwlProcess → Prop} (h : ∀ n q, Harmless (g n q) ↔ P q) :
    Harmless (eachFindings g ps) ↔ ∀ q ∈ ps, P q :=
  harmless_zipIdx_iff g h

/-! ### One process after the other -/

namespace Rule

/-- What a rule finds about one process with a number, if it looks at one after the other. -/
def each? : Rule → Option (ℕ → CwlProcess → List Finding)
  | documentClasses => none
  | toolElements => some toolFindings
  | workflowElements => some workflowFindings
  | inputElements => some workflowInputFindings
  | metadata => some metadataFindings

/-- The class of the processes that a rule looks at, if it looks at one after the other. -/
def subject : Rule → ProcessClass
  | toolElements => .commandLineTool
  | _ => .workflow

variable {rule : Rule} {find : ℕ → CwlProcess → List Finding}

theorem findings_eq_scoped (hfind : rule.each? = some find) (p : Package) (s : Selection) :
    rule.findings p s = scopedFindings rule s (eachFindings find (s.ofClass rule.subject)) := by
  cases rule with
  | documentClasses => cases hfind
  | _ =>
    obtain rfl := Option.some.inj hfind
    rfl

/-- Under an entry point that is known such a rule finds what it finds about each process of the
class that is selected. -/
theorem findings_of_each? (hfind : rule.each? = some find) {p : Package} {entry : Option String}
    (hentry : p.HasEntry entry) : rule.findings p (p.select entry) =
      eachFindings find ((p.select entry).ofClass rule.subject) := by
  rw [findings_eq_scoped hfind, scopedFindings, Package.missing_select_eq_none_iff.mpr hentry]

/-- What a rule finds about one process is that an element is missing, and it says under which
rule. -/
theorem missing_of_mem_find (hfind : rule.each? = some find) {n : ℕ} {q : CwlProcess} {f : Finding}
    (hf : f ∈ find n q) :
    ∃ owner element, f = .missing rule owner element ∨ f = .missingOptional rule owner element := by
  cases rule with
  | documentClasses => cases hfind
  | toolElements =>
    obtain rfl := Option.some.inj hfind
    obtain ⟨e, -, rfl⟩ := List.mem_map.mp hf
    exact ⟨_, _, .inl rfl⟩
  | workflowElements =>
    obtain rfl := Option.some.inj hfind
    obtain ⟨e, -, rfl⟩ := List.mem_map.mp hf
    exact ⟨_, _, .inl rfl⟩
  | inputElements =>
    obtain rfl := Option.some.inj hfind
    obtain ⟨i, -, hf⟩ := List.mem_flatMap.mp hf
    obtain ⟨e, -, rfl⟩ := List.mem_map.mp hf
    exact ⟨_, _, .inl rfl⟩
  | metadata =>
    obtain rfl := Option.some.inj hfind
    obtain ⟨field, -, rfl⟩ := List.mem_map.mp hf
    refine ⟨q.display n, field.name, ?_⟩
    rw [missingField]
    split
    · exact .inl rfl
    · exact .inr rfl

/-- **What a rule finds is found under it.** -/
theorem rule_of_mem_findings {p : Package} {s : Selection} {f : Finding}
    (hf : f ∈ rule.findings p s) : f.rule = rule := by
  cases hfind : rule.each? with
  | none =>
    cases rule with
    | documentClasses =>
      rcases List.mem_append.mp hf with hf | hf
      all_goals
        split at hf
        · rw [List.mem_singleton.mp hf]
          rfl
        · exact absurd hf List.not_mem_nil
    | _ => cases hfind
  | some find =>
    rw [findings_eq_scoped hfind, scopedFindings] at hf
    split at hf
    · rw [List.mem_singleton.mp hf]
      rfl
    · obtain ⟨x, -, hf⟩ := List.mem_flatMap.mp hf
      obtain ⟨owner, element, rfl | rfl⟩ := missing_of_mem_find hfind hf <;> rfl

end Rule

/-! ### All rules -/

/-- When no rule finds an error. -/
theorem forall_harmless_findings_iff {p : Package} {s : Selection} :
    (∀ r ∈ Rule.all, Harmless (r.findings p s)) ↔
      ((∃ w ∈ p.processes, w.processClass = .workflow) ∧
        ∃ t ∈ p.processes, t.processClass = .commandLineTool) ∧
      s.scope.missing = none ∧
      (∀ t ∈ s.tools, ∀ e ∈ ToolElement.all, e.present t = true) ∧
      ∀ w ∈ s.workflows, GoodWorkflow w := by
  have htools : Harmless (eachFindings toolFindings s.tools) ↔
      ∀ t ∈ s.tools, ∀ e ∈ ToolElement.all, e.present t = true :=
    harmless_eachFindings_iff toolFindings fun _ _ => harmless_toolFindings_iff
  have hnames : Harmless (eachFindings workflowFindings s.workflows) ↔
      ∀ w ∈ s.workflows, ∀ e ∈ WorkflowElement.all, e.present w = true :=
    harmless_eachFindings_iff workflowFindings fun _ _ => harmless_workflowFindings_iff
  have hinputs : Harmless (eachFindings workflowInputFindings s.workflows) ↔
      ∀ w ∈ s.workflows, ∀ i ∈ w.inputs.getD [], GoodInput i :=
    harmless_eachFindings_iff workflowInputFindings fun _ _ => harmless_workflowInputFindings_iff
  have hmetadata : Harmless (eachFindings metadataFindings s.workflows) ↔
      ∀ w ∈ s.workflows, ∃ v, (ProvenanceField.version, v) ∈ w.provenance :=
    harmless_eachFindings_iff metadataFindings fun _ _ => harmless_metadataFindings_iff
  simp only [Rule.all, List.forall_mem_cons, List.not_mem_nil, false_implies, implies_true,
    and_true, Rule.findings, harmless_classFindings_iff, harmless_scopedFindings_iff,
    htools, hnames, hinputs, hmetadata]
  constructor
  · rintro ⟨hclasses, ⟨hentry, htools⟩, ⟨-, hnames⟩, ⟨-, hinputs⟩, -, hversion⟩
    refine ⟨hclasses, hentry, htools, fun w hw => ?_⟩
    exact goodWorkflow_iff.mpr ⟨hnames w hw, hinputs w hw, hversion w hw⟩
  · rintro ⟨hclasses, hentry, htools, hgood⟩
    have hgood := fun w hw => goodWorkflow_iff.mp (hgood w hw)
    exact ⟨hclasses, ⟨hentry, htools⟩, ⟨hentry, fun w hw => (hgood w hw).1⟩,
      ⟨hentry, fun w hw => (hgood w hw).2.1⟩, hentry, fun w hw => (hgood w hw).2.2⟩

theorem unsupported_eq_nil_iff {s : Selection} :
    s.unsupported = [] ↔ ∀ t ∈ s.tools, t.usesUnsupported = false := by
  rw [Selection.unsupported, List.map_eq_nil_iff, List.filter_eq_nil_iff]
  simp only [Bool.not_eq_true]
  exact forall_mem_zipIdx_fst (P := fun t : CwlProcess => t.usesUnsupported = false)

/-- What the scan finds about one selected tool after the other. -/
theorem Selection.unsupported_eq_flatMap (s : Selection) : s.unsupported =
    (s.tools.zipIdx 1).flatMap fun x =>
      if x.1.usesUnsupported then [x.1.display x.2] else [] :=
  map_filter_eq_flatMap _ _ _

/-! ### What findings depend on -/

/-- What is found about the classes of a package depends on the classes at its top alone. -/
theorem classFindings_congr {p p' : Package} (h : ∀ c, (∃ q ∈ p.processes, q.processClass = c) ↔
    ∃ q ∈ p'.processes, q.processClass = c) : classFindings p = classFindings p' := by
  have hempty : ∀ (P : CwlProcess → Bool) (c : ProcessClass),
      (∀ q, P q = true ↔ q.processClass = c) →
      (p.processes.filter P).isEmpty = (p'.processes.filter P).isEmpty := by
    intro P c hP
    rw [Bool.eq_iff_iff, List.isEmpty_iff, List.isEmpty_iff, List.filter_eq_nil_iff,
      List.filter_eq_nil_iff]
    simpa only [hP, not_exists, not_and] using not_congr (h c)
  rw [classFindings, classFindings, Package.workflows_eq_filter, Package.workflows_eq_filter,
    Package.tools_eq_filter, Package.tools_eq_filter,
    hempty _ .workflow fun _ => CwlProcess.isWorkflow_iff,
    hempty _ .commandLineTool fun _ => CwlProcess.isTool_iff]

/-! ### The processes alone -/

/-- What is selected and found depends on the processes alone. -/
theorem Package.selected_congr (p p' : Package) (h : p.processes = p'.processes)
    (entry : Option String) :
    p.select entry = p'.select entry ∧ p.issues entry = p'.issues entry ∧
      (p.select entry).unsupported = (p'.select entry).unsupported := by
  obtain ⟨text, ⟨v, version, namespaces, ps⟩⟩ := p
  obtain ⟨text', ⟨v', version', namespaces', ps'⟩⟩ := p'
  obtain rfl : ps = ps' := h
  exact ⟨rfl, rfl, rfl⟩

/-- What a rule raises depends on the processes alone. -/
theorem Rule.issues_congr {p p' : Package} (h : p.processes = p'.processes) (rule : Rule)
    (entry : Option String) : rule.issues p entry = rule.issues p' entry := by
  obtain ⟨text, ⟨v, version, namespaces, ps⟩⟩ := p
  obtain ⟨text', ⟨v', version', namespaces', ps'⟩⟩ := p'
  obtain rfl : ps = ps' := h
  rfl

end CwlCompliance
