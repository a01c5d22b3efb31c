import CwlCompliance.Proofs.Document.Attributes

/-!
# Which documents can be read

The reader accepts exactly the documents of the grammar.  Of the others it refuses those
over a class in which the first thing wrong is a class, and the rest over their shape.

## Main results

* `decided_process` — what decides the reading of a process, by induction over the
  processes declared inside it.
* `decided_document` — what decides the reading of a document.
* `Document.ofValue_accepts` — **the reader accepts the grammar, and its codes tell what
  comes first.**
-/

namespace CwlCompliance

open Yaml

variable {es fields : Entries} {prefixes : List String} {owner : String}

/-! ### Steps -/

/-- What decides whether entries can be read as a process, wherever they stand. -/
def ReadAsProcess (es : Entries) : Prop :=
  ∀ around origin, Decided (CwlProcess.ofEntries around origin es) (ProcessShape es)
    (ProcessClassFault es)

theorem decided_targetIn (h : ∀ es, fields.get? "run" = some (.mapping es) → ReadAsProcess es) :
    Decided (Steps.targetIn prefixes owner fields) (RunShape (fields.get? "run"))
      (∃ es, fields.get? "run" = some (.mapping es) ∧ ProcessClassFault es) := by
  rw [Steps.targetIn_eq]
  generalize fields.get? "run" = run at h
  match run with
  | none => exact (decided_ok _).congr (iff_of_true trivial .absent) (by simp)
  | some .null => exact (decided_ok _).congr (iff_of_true trivial .null) (by simp)
  | some (.string s) => exact (decided_ok _).congr (iff_of_true trivial (.reference s)) (by simp)
  | some (.mapping es) =>
    dsimp only
    rw [Steps.targetOf_mapping]
    refine (h es rfl ⟨prefixes, none⟩ owner).map.congr ?_ (by simp)
    exact ⟨.inline, fun | .inline process => process⟩
  | some (.bool _) | some (.number _) | some (.sequence _) | some (.tagged _ _) =>
    exact (decided_shape rfl).congr (iff_of_false id fun h => nomatch h) (by simp)

theorem decided_ofFields (id : Option String)
    (h : ∀ es, fields.get? "run" = some (.mapping es) → ReadAsProcess es) :
    Decided (Steps.ofFields prefixes owner id fields) (RunShape (fields.get? "run"))
      (∃ es, fields.get? "run" = some (.mapping es) ∧ ProcessClassFault es) :=
  (decided_targetIn h).map

theorem decided_listedStep {item : Value} (n : ℕ)
    (h : ∀ fields es, item.asEntries? = some fields → fields.get? "run" = some (.mapping es) →
      ReadAsProcess es) :
    Decided (Steps.ofItem prefixes owner n item) (ListedStepShape item)
      (ListedStepClassFault item) := by
  rw [Steps.ofItem_eq]
  refine Decided.congr (decided_entries rfl fun fields hfields =>
    (decided_text "id").bindShape fun id _ => decided_ofFields id fun es => h fields es hfields)
    ?_ ?_
  · constructor
    · rintro ⟨fields, mapping, id, run⟩
      exact .intro mapping id run
    · rintro ⟨mapping, id, run⟩
      exact ⟨_, mapping, id, run⟩
  · constructor
    · rintro ⟨fields, mapping, id, es, run, fault⟩
      exact .intro mapping id run fault
    · rintro ⟨mapping, id, run, fault⟩
      exact ⟨_, mapping, id, _, run, fault⟩

theorem decided_keyedStep {body : Value} (name : Option String)
    (h : ∀ fields es, body.asEntries? = some fields → fields.get? "run" = some (.mapping es) →
      ReadAsProcess es) :
    Decided (Steps.ofBody prefixes owner name body) (KeyedStepShape body)
      (KeyedStepClassFault body) := by
  rw [Steps.ofBody_eq]
  refine Decided.congr (decided_entries rfl fun fields hfields =>
    decided_ofFields name fun es => h fields es hfields) ?_ ?_
  · constructor
    · rintro ⟨fields, mapping, run⟩
      exact .intro mapping run
    · rintro ⟨mapping, run⟩
      exact ⟨_, mapping, run⟩
  · constructor
    · rintro ⟨fields, mapping, es, run, fault⟩
      exact .intro mapping run fault
    · rintro ⟨mapping, run, fault⟩
      exact ⟨_, mapping, _, run, fault⟩

theorem decided_steps (h : ∀ es', Declares es es' → ReadAsProcess es') :
    Decided (Steps.ofEntries prefixes owner es) (StepsShape (es.get? "steps"))
      (StepsClassFault (es.get? "steps")) := by
  rw [Steps.ofEntries_eq]
  cases hsteps : es.get? "steps" with
  | none =>
    exact (decided_ok _).congr (iff_of_true trivial .absent) (iff_of_false id fun h => nomatch h)
  | some v =>
    cases v with
    | null =>
      exact (decided_ok _).congr (iff_of_true trivial .null) (iff_of_false id fun h => nomatch h)
    | sequence items =>
      dsimp only
      rw [Steps.ofValue, Steps.ofItems_eq]
      refine (decided_mapM_zipIdx fun item hitem n => decided_listedStep n fun fields es' hfields
        hrun => h es' (.listed hsteps hitem hfields hrun)).congr ?_ ?_
      · exact ⟨.listed, fun | .listed steps => steps⟩
      · constructor
        · rintro ⟨before, item, after, rfl, shapes, fault⟩
          exact .listed shapes fault
        · rintro (⟨shapes, fault⟩ | _)
          exact ⟨_, _, _, rfl, shapes, fault⟩
    | mapping bodies =>
      dsimp only
      rw [Steps.ofValue, Steps.ofKeyed_eq]
      refine (decided_mapM fun e he => decided_keyedStep e.1.scalarText? fun fields es' hfields
        hrun => h es' (.keyed hsteps he hfields hrun)).congr ?_ ?_
      · exact ⟨.keyed, fun | .keyed steps => steps⟩
      · constructor
        · rintro ⟨before, e, after, rfl, shapes, fault⟩
          exact .keyed shapes fault
        · rintro (_ | ⟨shapes, fault⟩)
          exact ⟨_, _, _, rfl, shapes, fault⟩
    | bool _ | number _ | string _ | tagged _ _ =>
      exact (decided_shape rfl).congr (iff_of_false id fun h => nomatch h)
        (iff_of_false id fun h => nomatch h)

/-! ### Processes -/

/-- The attributes that are read last, in their order. -/
theorem decided_ofAttributes (around : Surroundings) (c : ProcessClass) (id : Option String)
    (name : String) (steps : List Step) :
    Decided (CwlProcess.ofAttributes around es c id name steps)
      (TextShape (es.get? "label") ∧ DocShape (es.get? "doc") ∧ InputsShape (es.get? "inputs") ∧
        RequirementsShape (es.get? "requirements") ∧ RequirementsShape (es.get? "hints") ∧
        CommandShape (es.get? "baseCommand")) False := by
  refine ((decided_text "label").bindShape fun _ _ => decided_doc.bindShape fun _ _ =>
    decided_inputs.bindShape fun _ _ => decided_requirements.bindShape fun _ _ =>
    decided_requirements.bindShape fun _ _ => decided_baseCommand.bindShape fun _ _ =>
    decided_ok _).congr ?_ (by simp)
  simp only [RequirementList.key, and_true]

/-- What decides the reading of a process, wherever it stands. -/
theorem decided_process (es : Entries) : ReadAsProcess es := by
  induction es using declares_induction with
  | h es ih =>
    intro around origin
    rw [CwlProcess.ofEntries_eq]
    -- steps are read of a workflow only, and its class is settled by then
    have hsteps : ∀ (c : ProcessClass) (name : String), HasClass es c →
        Decided (if c = .workflow then Steps.ofEntries around.prefixes name es else .ok [])
          (HasClass es .workflow → StepsShape (es.get? "steps"))
          (HasClass es .workflow ∧ StepsClassFault (es.get? "steps")) := by
      intro c name hc
      by_cases hworkflow : c = .workflow
      · rw [if_pos hworkflow]
        rw [hworkflow] at hc
        exact (decided_steps ih).congr (by simp [hc]) (by simp [hc])
      · have hno : ¬HasClass es .workflow := fun h => hworkflow (hc.unique h)
        rw [if_neg hworkflow]
        exact (decided_ok _).congr (by simp [hno]) (by simp [hno])
    refine (decided_processClass.bind fun c hc => (decided_text "id").bindShape fun id _ =>
      (hsteps c _ (hasClass_of_processClass hc)).bind fun steps _ =>
        decided_ofAttributes around c id _ steps).congr ?_ ?_
    · constructor
      · rintro ⟨⟨c, hc⟩, hid, hsteps, hlabel, hdoc, hinputs, hreqs, hhints, hcommand⟩
        refine .intro hc hid ?_ hlabel hdoc hinputs hreqs hhints hcommand
        rintro rfl
        exact hsteps hc
      · rintro ⟨hc, hid, hsteps, hlabel, hdoc, hinputs, hreqs, hhints, hcommand⟩
        refine ⟨⟨_, hc⟩, hid, ?_, hlabel, hdoc, hinputs, hreqs, hhints, hcommand⟩
        intro hworkflow
        exact hsteps (hc.unique hworkflow)
    · constructor
      · rintro (hno | ⟨-, hid, ⟨hworkflow, hfault⟩ | ⟨-, ⟨⟩⟩⟩)
        · exact .own hno
        · exact .inner hworkflow hid hfault
      · rintro (hno | ⟨hworkflow, hid, hfault⟩)
        · exact .inl hno
        · exact .inr ⟨⟨_, hworkflow⟩, hid, .inl ⟨hworkflow, hfault⟩⟩

/-! ### Documents -/

theorem decided_namespaces : Decided (Document.readNamespaces es)
    (NamespacesShape (es.get? "$namespaces")) False := by
  rw [Document.readNamespaces]
  cases es.get? "$namespaces" with
  | none => exact (decided_ok _).congr (iff_of_true trivial .absent) Iff.rfl
  | some v =>
    refine Decided.congr (decided_entries rfl fun entries _ => decided_foldlM
      (P := fun e : Value × Value =>
        (∃ s, e.1.untag = .string s) ∧ ∃ s, e.2.untag = .string s)
      (fun e _ ns => ?_) []) ?_ (by simp)
    · simp only [← Value.asString?_eq_some]
      cases e.1.asString? with
      | none => exact (decided_shape rfl).congr (by simp) Iff.rfl
      | some pre =>
        cases e.2.asString? with
        | none => exact (decided_shape rfl).congr (by simp) Iff.rfl
        | some uri => exact (decided_ok _).congr (by simp) Iff.rfl
    · constructor
      · rintro ⟨entries, mapping, h⟩
        exact .mapping mapping (fun e he => (h e he).1) fun e he => (h e he).2
      · rintro (_ | ⟨mapping, keys, uris⟩)
        exact ⟨_, mapping, fun e he => ⟨keys e he, uris e he⟩⟩

/-- The first thing wrong with an item of a graph is a class. -/
def ItemClassFault (item : Value) : Prop :=
  ∃ fields, item.untag = .mapping fields ∧ ProcessClassFault fields

theorem decided_item (around : Surroundings) (n : ℕ) (item : Value) :
    Decided (Document.readItem around n item) (ItemShape item) (ItemClassFault item) := by
  rw [Document.readItem]
  refine Decided.congr (decided_entries rfl fun fields _ => decided_process fields around _) ?_
    Iff.rfl
  constructor
  · rintro ⟨fields, mapping, process⟩
    exact .intro mapping process
  · rintro ⟨mapping, process⟩
    exact ⟨_, mapping, process⟩

/-- What decides the reading of the processes of a document with a root. -/
theorem decided_processes : Decided (Document.readProcesses prefixes es)
    ((es.get? "$graph" = none ∧ ProcessShape es) ∨
      ∃ graph items, es.get? "$graph" = some graph ∧ graph.untag = .sequence items ∧
        ∀ item ∈ items, ItemShape item)
    ((es.get? "$graph" = none ∧ ProcessClassFault es) ∨
      ∃ graph items, es.get? "$graph" = some graph ∧ graph.untag = .sequence items ∧
        FirstBad ItemShape ItemClassFault items) := by
  rw [Document.readProcesses]
  cases hgraph : es.get? "$graph" with
  | none =>
    refine ((decided_process es ⟨prefixes, none⟩ "document root").bind fun p _ =>
      decided_ok [p]).congr ?_ ?_
    · simp
    · simp
  | some graph =>
    simp only [← Value.asItems?_eq_some]
    cases h : graph.asItems? with
    | none => exact (decided_shape rfl).congr (by simp [h]) (by simp [h])
    | some items =>
      refine (decided_mapM_zipIdx fun item _ n => decided_item ⟨prefixes, some es⟩ n item).congr
        ?_ ?_
      · simp [h]
      · simp [h]

theorem decided_document (v : Value) :
    Decided (Document.ofValue v) (DocumentShape v) (DocumentClassFault v) := by
  rw [Document.ofValue]
  refine Decided.congr (decided_entries rfl fun es _ => decided_namespaces.bindShape fun ns _ =>
    decided_processes.bind fun ps _ => decided_ok _) ?_ ?_
  · constructor
    · rintro ⟨es, root, hns, ⟨hgraph, hprocess⟩ | ⟨graph, items, hgraph, hitems, hall⟩, -⟩
      · exact .single root hns hgraph hprocess
      · exact .packed root hns hgraph hitems hall
    · rintro (⟨root, hns, hgraph, hprocess⟩ | ⟨root, hns, hgraph, hitems, hall⟩)
      · exact ⟨_, root, hns, .inl ⟨hgraph, hprocess⟩, trivial⟩
      · exact ⟨_, root, hns, .inr ⟨_, _, hgraph, hitems, hall⟩, trivial⟩
  · constructor
    · rintro ⟨es, root, hns, (⟨hgraph, hfault⟩ | ⟨graph, items, hgraph, hitems, hfirst⟩) | ⟨-, ⟨⟩⟩⟩
      · exact .single root hns hgraph hfault
      -- the first bad item of the graph, with the items before it
      · obtain ⟨before, item, after, rfl, shapes, fields, mapping, fault⟩ := hfirst
        exact .packed root hns hgraph hitems shapes mapping fault
    · rintro (⟨root, hns, hgraph, hfault⟩ | ⟨root, hns, hgraph, hitems, shapes, mapping, fault⟩)
      · exact ⟨_, root, hns, .inl (.inl ⟨hgraph, hfault⟩)⟩
      · exact ⟨_, root, hns, .inl (.inr ⟨_, _, hgraph, hitems, _, _, _, rfl, shapes, _, mapping,
          fault⟩)⟩

/-- **The reader accepts the grammar.**  A value is read as a document exactly when it is
one.  It is refused over the class of a process exactly when that is the first thing
wrong with it, and over a shape when it is no document for another reason. -/
theorem Document.ofValue_accepts (v : Value) :
    ((∃ d, Document.ofValue v = .ok d) ↔ DocumentShape v) ∧
      ((∃ e, Document.ofValue v = .error e ∧ e.code = "AP-PARSE-003") ↔ DocumentClassFault v) ∧
      ((∃ e, Document.ofValue v = .error e ∧ e.code = "AP-PARSE-002") ↔
        ¬DocumentShape v ∧ ¬DocumentClassFault v) := by
  obtain ⟨hok, hclass, hshape⟩ := decided_document v
  refine ⟨hok, hclass, ?_⟩
  rw [← hok, ← hclass]
  cases h : Document.ofValue v with
  | ok d => simp
  | error e =>
    constructor
    · rintro ⟨_, ⟨⟩, he⟩
      refine ⟨(fun ⟨_, h⟩ => nomatch h), ?_⟩
      rintro ⟨_, ⟨⟩, he'⟩
      rw [he] at he'
      exact absurd he' (by decide)
    · rintro ⟨-, hno⟩
      exact ⟨e, rfl, (hshape e h).resolve_left fun hc => hno ⟨e, rfl, hc⟩⟩

end CwlCompliance
