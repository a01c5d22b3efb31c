import CwlCompliance.Proofs.Checks.Finding
import CwlCompliance.Proofs.Document.Forms

/-!
# Documents written in two ways

Two documents that differ only in the forms of their collections, wherever these stand,
declare the same processes.  So whatever is asked of one has the same answer for the
other.

## Main definitions

* `SameEntry`, `SameField` — entries of a process and of a step, written in two ways.
* `SameDocument` — a document, written in two ways.

## Main results

* `agree_process` — processes written in two ways are read alike, by induction over
  the processes declared in place.
* `agree_document` — so are documents.
* `forms_agree` — **the two forms of collections mean the same.**
-/

namespace CwlCompliance

open Yaml

mutual

/-- An entry of a process, written in two ways. -/
inductive SameEntry : Value × Value → Value × Value → Prop
  /-- The two ways are one. -/
  | same (e : Value × Value) : SameEntry e e
  /-- The inputs are in some form. -/
  | inputs {key : Value} {cs : List (Value × Entries)} (isKey : key = .string "inputs")
      (form form' : Form) (named : Named cs) : SameEntry (key, form.named cs) (key, form'.named cs)
  /-- The requirements are in some form. -/
  | requirements {key : Value} {rs : List (String × Entries)} (list : RequirementList)
      (isKey : key = .string list.key) (form form' : Form) (classed : Classed rs) :
      SameEntry (key, form.requirements rs) (key, form'.requirements rs)
  /-- The steps are in some form, and what they run is written in two ways. -/
  | steps {key : Value} {cs cs' : List (Value × Entries)} (isKey : key = .string "steps")
      (form form' : Form) (named : Named cs) (named' : Named cs')
      (steps : List.Forall₂ SameStep cs cs') : SameEntry (key, form.named cs) (key, form'.named cs')
  /-- The steps form a list, and what they run is written in two ways. -/
  | listedSteps {key : Value} {items items' : List Value} (isKey : key = .string "steps")
      (steps : List.Forall₂ SameBody items items') :
      SameEntry (key, .sequence items) (key, .sequence items')
  /-- The steps form a mapping, and what they run is written in two ways. -/
  | keyedSteps {key : Value} {bodies bodies' : Entries} (isKey : key = .string "steps")
      (steps : List.Forall₂ SameKeyedBody bodies bodies') :
      SameEntry (key, .mapping bodies) (key, .mapping bodies')

/-- The identifier of a step with its fields, written in two ways. -/
inductive SameStep : Value × Entries → Value × Entries → Prop
  /-- Its identifier is the same. -/
  | intro {f f' : Entries} (id : Value) (fields : List.Forall₂ SameField f f') :
      SameStep (id, f) (id, f')

/-- The value of a step, written in two ways. -/
inductive SameBody : Value → Value → Prop
  /-- The two ways are one. -/
  | same (v : Value) : SameBody v v
  /-- It is a mapping. -/
  | fields {v v' : Value} {f f' : Entries} (mapping : v.untag = .mapping f)
      (mapping' : v'.untag = .mapping f') (fields : List.Forall₂ SameField f f') : SameBody v v'

/-- The key of a step with its value, written in two ways. -/
inductive SameKeyedBody : Value × Value → Value × Value → Prop
  /-- Its key is the same. -/
  | intro {v v' : Value} (key : Value) (body : SameBody v v') : SameKeyedBody (key, v) (key, v')

/-- A field of a step, written in two ways. -/
inductive SameField : Value × Value → Value × Value → Prop
  /-- The two ways are one. -/
  | same (e : Value × Value) : SameField e e
  /-- It holds a process declared in place. -/
  | run {key : Value} {es es' : Entries} (isKey : key = .string "run")
      (process : List.Forall₂ SameEntry es es') : SameField (key, .mapping es) (key, .mapping es')

end

/-- An item of a graph, written in two ways. -/
inductive SameItem : Value → Value → Prop
  /-- The two ways are one. -/
  | same (v : Value) : SameItem v v
  /-- It is a process. -/
  | process {v v' : Value} {es es' : Entries} (mapping : v.untag = .mapping es)
      (mapping' : v'.untag = .mapping es') (process : List.Forall₂ SameEntry es es') : SameItem v v'

/-- An entry at the root of a document, written in two ways. -/
inductive SameRootEntry : Value × Value → Value × Value → Prop
  /-- The two ways are one. -/
  | same (e : Value × Value) : SameRootEntry e e
  /-- It holds the graph. -/
  | graph {key graph graph' : Value} {items items' : List Value} (isKey : key = .string "$graph")
      (list : graph.untag = .sequence items) (list' : graph'.untag = .sequence items')
      (processes : List.Forall₂ SameItem items items') : SameRootEntry (key, graph) (key, graph')

/-- A document, written in two ways. -/
inductive SameDocument : Value → Value → Prop
  /-- It is one process. -/
  | single {v v' : Value} {es es' : Entries} (mapping : v.untag = .mapping es)
      (mapping' : v'.untag = .mapping es') (noGraph : es.get? "$graph" = none)
      (process : List.Forall₂ SameEntry es es') : SameDocument v v'
  /-- It is a graph of processes. -/
  | packed {v v' : Value} {es es' : Entries} (mapping : v.untag = .mapping es)
      (mapping' : v'.untag = .mapping es') (hasGraph : es.get? "$graph" ≠ none)
      (root : List.Forall₂ SameRootEntry es es') : SameDocument v v'

variable {es es' f f' : Entries} {prefixes : List String} {owner : String}

/-! ### What stands under a key -/

/-- Under each key there is nothing in both ways of writing, or something in both. -/
theorem get?_of_forall₂ {R : Value × Value → Value × Value → Prop}
    (hkey : ∀ e e', R e e' → e.1 = e'.1) (h : List.Forall₂ R es es') (name : String) :
    es.get? name = none ∧ es'.get? name = none ∨
      ∃ v v', es.get? name = some v ∧ es'.get? name = some v' ∧
        R (.string name, v) (.string name, v') := by
  induction h with
  | nil => exact .inl ⟨rfl, rfl⟩
  | @cons e e' es es' he _ ih =>
    obtain ⟨key, v⟩ := e
    obtain ⟨key', v'⟩ := e'
    obtain rfl : key = key' := hkey _ _ he
    rw [Entries.get?_cons, Entries.get?_cons]
    by_cases hname : key.isKey name = true
    -- both entries stand here, as their keys are one
    · obtain rfl : key = .string name := by
        cases key <;> simp_all [Value.isKey]
      rw [if_pos hname, if_pos hname]
      exact .inr ⟨v, v', rfl, rfl, he⟩
    · rw [if_neg hname, if_neg hname]
      exact ih

theorem SameEntry.key_eq {e e' : Value × Value} (h : SameEntry e e') : e.1 = e'.1 := by
  cases h <;> rfl

theorem SameField.key_eq {e e' : Value × Value} (h : SameField e e') : e.1 = e'.1 := by
  cases h <;> rfl

theorem SameRootEntry.key_eq {e e' : Value × Value} (h : SameRootEntry e e') : e.1 = e'.1 := by
  cases h <;> rfl

theorem string_ne {s t : String} (h : s ≠ t) : Value.string s ≠ .string t := by
  rwa [ne_eq, Value.string.injEq]

/-- The keys whose values may be written in two ways. -/
def rewrittenKeys : List String := ["inputs", "requirements", "hints", "steps", "$graph"]

/-- Whatever else stands under a key is the same. -/
theorem get?_sameEntries (h : List.Forall₂ SameEntry es es') {name : String}
    (hname : name ∉ rewrittenKeys) : es.get? name = es'.get? name := by
  rcases get?_of_forall₂ (fun _ _ => SameEntry.key_eq) h name with ⟨h1, h2⟩ | ⟨v, v', h1, h2, he⟩
  · rw [h1, h2]
  · have hne : ∀ {key : String}, key ∈ rewrittenKeys → Value.string name ≠ .string key := by
      intro key hkey
      exact string_ne fun heq => hname (heq ▸ hkey)
    cases he with
    | same => rw [h1, h2]
    | inputs isKey => exact absurd isKey (hne (by decide))
    | requirements list isKey => exact absurd isKey (hne (by cases list <;> decide))
    | steps isKey => exact absurd isKey (hne (by decide))
    | listedSteps isKey => exact absurd isKey (hne (by decide))
    | keyedSteps isKey => exact absurd isKey (hne (by decide))

theorem get?_sameRoot (h : List.Forall₂ SameRootEntry es es') {name : String}
    (hname : name ∉ rewrittenKeys) : es.get? name = es'.get? name := by
  rcases get?_of_forall₂ (fun _ _ => SameRootEntry.key_eq) h name with
    ⟨h1, h2⟩ | ⟨v, v', h1, h2, he⟩
  · rw [h1, h2]
  · cases he with
    | same => rw [h1, h2]
    | graph isKey =>
      rw [Value.string.injEq] at isKey
      exact absurd (by rw [isKey]; decide) hname

/-! ### Attributes -/

theorem text_congr {key : String} (h : es.get? key = es'.get? key) :
    Attributes.text es key owner = Attributes.text es' key owner := by
  rw [Attributes.text, Attributes.text, h]

theorem doc_congr (h : es.get? "doc" = es'.get? "doc") :
    Attributes.doc es owner = Attributes.doc es' owner := by
  rw [Attributes.doc, Attributes.doc, h, text_congr h]

theorem requirements_sameEntries {list : RequirementList} (h : List.Forall₂ SameEntry es es') :
    Attributes.requirements list es owner = Attributes.requirements list es' owner := by
  rcases get?_of_forall₂ (fun _ _ => SameEntry.key_eq) h list.key with
    ⟨h1, h2⟩ | ⟨v, v', h1, h2, he⟩
  · rw [Attributes.requirements_eq, Attributes.requirements_eq, h1, h2]
  · cases he with
    | same => rw [Attributes.requirements_eq, Attributes.requirements_eq, h1, h2]
    | requirements _ _ form form' classed =>
      rw [requirements_form form classed h1, requirements_form form' classed h2]
    | inputs isKey | steps isKey | listedSteps isKey | keyedSteps isKey =>
      exact absurd isKey (string_ne (by cases list <;> decide))

theorem agree_inputs_sameEntries (h : List.Forall₂ SameEntry es es') :
    Agree (Attributes.inputs es owner) (Attributes.inputs es' owner) := by
  rcases get?_of_forall₂ (fun _ _ => SameEntry.key_eq) h "inputs" with
    ⟨h1, h2⟩ | ⟨v, v', h1, h2, he⟩
  · rw [Attributes.inputs, Attributes.inputs, h1, h2]
    exact .refl _
  · cases he with
    | same =>
      rw [Attributes.inputs, Attributes.inputs, h1, h2]
      exact .refl _
    | inputs _ form form' named => exact agree_inputs_forms named h1 h2
    | requirements list isKey => exact absurd isKey (string_ne (by cases list <;> decide))
    | steps isKey => exact absurd isKey (string_ne (by decide))
    | listedSteps isKey => exact absurd isKey (string_ne (by decide))
    | keyedSteps isKey => exact absurd isKey (string_ne (by decide))

/-! ### Metadata -/

/-- No key under which metadata may stand is one of some names that have no colon, if no
field is spelled like one of them. -/
theorem notMem_of_mem_candidates {names : List String} {field : ProvenanceField} {key : String}
    (hcolon : ∀ name ∈ names, ':' ∉ name.toList)
    (hnames : ∀ field : ProvenanceField, ∀ name ∈ field.spellings, name ∉ names)
    (h : key ∈ Provenance.candidates prefixes field) : key ∉ names := by
  rw [Provenance.candidates, List.mem_flatMap] at h
  obtain ⟨name, hname, hkey⟩ := h
  rcases List.mem_cons.mp hkey with rfl | hkey
  · exact hnames field _ hname
  -- a prefixed name has a colon
  · obtain ⟨pre, -, rfl⟩ := List.mem_map.mp hkey
    intro hmem
    exact hcolon _ hmem (by simp)

theorem notMem_rewrittenKeys {field : ProvenanceField} {key : String}
    (h : key ∈ Provenance.candidates prefixes field) : key ∉ rewrittenKeys :=
  notMem_of_mem_candidates (by decide +kernel)
    (fun field => by cases field <;> decide +kernel) h

theorem find?_congr (h : ∀ name, name ∉ rewrittenKeys → es.get? name = es'.get? name)
    (field : ProvenanceField) :
    Provenance.find? prefixes es field = Provenance.find? prefixes es' field := by
  rw [Provenance.find?, Provenance.find?]
  exact findSome?_congr fun key hkey => by rw [h key (notMem_rewrittenKeys hkey)]

/-- What the whole document says is the same. -/
structure SameAround (around around' : Surroundings) : Prop where
  /-- The prefixes are the same. -/
  prefixes : around.prefixes = around'.prefixes
  /-- So is the metadata at the root. -/
  root : ∀ field, (around.root.bind fun r => Provenance.find? around.prefixes r field) =
    around'.root.bind fun r => Provenance.find? around.prefixes r field

theorem SameAround.refl (around : Surroundings) : SameAround around around := ⟨rfl, fun _ => rfl⟩

theorem resolve_sameEntries {around around' : Surroundings} (ha : SameAround around around')
    (h : List.Forall₂ SameEntry es es') :
    Provenance.resolve around.prefixes es around.root =
      Provenance.resolve around'.prefixes es' around'.root := by
  have hfind : ∀ field, Provenance.find? around.prefixes es field =
      Provenance.find? around.prefixes es' field :=
    find?_congr fun _ hname => get?_sameEntries h hname
  simp only [Provenance.resolve, ← ha.prefixes, ha.root, hfind]

/-! ### Processes -/

/-- Whatever stands for entries in another way of writing is read as they are. -/
def ReadAlike (es : Entries) : Prop :=
  ∀ es' : Entries, List.Forall₂ SameEntry es es' →
    ∀ around around' origin, SameAround around around' →
      Agree (CwlProcess.ofEntries around origin es) (CwlProcess.ofEntries around' origin es')

theorem agree_ofFields (h : List.Forall₂ SameField f f')
    (ih : ∀ es, f.get? "run" = some (.mapping es) → ReadAlike es) (id : Option String) :
    Agree (Steps.ofFields prefixes owner id f) (Steps.ofFields prefixes owner id f') := by
  refine Agree.map ?_
  rw [Steps.targetIn_eq, Steps.targetIn_eq]
  rcases get?_of_forall₂ (fun _ _ => SameField.key_eq) h "run" with ⟨h1, h2⟩ | ⟨v, v', h1, h2, he⟩
  · rw [h1, h2]
    exact .refl _
  · rw [h1, h2]
    cases he with
    | same => exact .refl _
    | run isKey process =>
      dsimp only
      rw [Steps.targetOf_mapping, Steps.targetOf_mapping]
      exact Agree.map (ih _ h1 _ process _ _ _ (.refl _))

theorem get?_sameFields (h : List.Forall₂ SameField f f') {name : String} (hname : name ≠ "run") :
    f.get? name = f'.get? name := by
  rcases get?_of_forall₂ (fun _ _ => SameField.key_eq) h name with ⟨h1, h2⟩ | ⟨v, v', h1, h2, he⟩
  · rw [h1, h2]
  · cases he with
    | same => rw [h1, h2]
    | run isKey => exact absurd isKey (string_ne hname)

theorem agree_listedStep {item item' : Value} (h : SameBody item item')
    (ih : ∀ fields es, item.asEntries? = some fields → fields.get? "run" = some (.mapping es) →
      ReadAlike es) (n : ℕ) :
    Agree (Steps.ofItem prefixes owner n item) (Steps.ofItem prefixes owner n item') := by
  rw [Steps.ofItem_eq, Steps.ofItem_eq]
  cases h with
  | same => exact .refl _
  | fields mapping mapping' fields =>
    rw [← Value.asEntries?_eq_some] at mapping mapping'
    rw [mapping, mapping']
    exact (Agree.of_eq (text_congr (get?_sameFields fields (by decide)))).bind fun id =>
      agree_ofFields fields (fun es => ih _ es mapping) id

theorem agree_keyedStep {body body' : Value} (h : SameBody body body')
    (ih : ∀ fields es, body.asEntries? = some fields → fields.get? "run" = some (.mapping es) →
      ReadAlike es) (id : Option String) :
    Agree (Steps.ofBody prefixes owner id body) (Steps.ofBody prefixes owner id body') := by
  rw [Steps.ofBody_eq, Steps.ofBody_eq]
  cases h with
  | same => exact .refl _
  | fields mapping mapping' fields =>
    rw [← Value.asEntries?_eq_some] at mapping mapping'
    rw [mapping, mapping']
    exact agree_ofFields fields (fun es => ih _ es mapping) id

theorem declares_named {form : Form} {cs : List (Value × Entries)} {c : Value × Entries}
    (hget : es.get? "steps" = some (form.named cs)) (hc : c ∈ cs)
    (hrun : c.2.get? "run" = some (.mapping es')) : Declares es es' := by
  cases form with
  | list =>
    refine .listed hget (List.mem_map_of_mem hc) rfl ?_
    rw [get?_id_cons (by decide)]
    exact hrun
  | mapping => exact .keyed hget (List.mem_map_of_mem hc) rfl hrun

theorem agree_named {form form' : Form} {cs cs' : List (Value × Entries)} (named : Named cs)
    (named' : Named cs') (h : List.Forall₂ SameStep cs cs')
    (ih : ∀ c ∈ cs, ∀ es, c.2.get? "run" = some (.mapping es) → ReadAlike es) :
    Agree (Steps.ofValue prefixes owner (form.named cs))
      (Steps.ofValue prefixes owner (form'.named cs')) := by
  rw [ofValue_form form named, ofValue_form form' named']
  refine agree_mapM ((forall₂_mem_left h).imp ?_)
  rintro c c' ⟨hc, hstep⟩
  cases hstep with
  | intro id fields => exact agree_ofFields fields (ih _ hc) _

theorem agree_steps (h : List.Forall₂ SameEntry es es')
    (ih : ∀ es', Declares es es' → ReadAlike es') :
    Agree (Steps.ofEntries prefixes owner es) (Steps.ofEntries prefixes owner es') := by
  rw [Steps.ofEntries_eq, Steps.ofEntries_eq]
  rcases get?_of_forall₂ (fun _ _ => SameEntry.key_eq) h "steps" with ⟨h1, h2⟩ | ⟨v, v', h1, h2, he⟩
  · rw [h1, h2]
    exact .refl _
  · rw [h1, h2]
    cases he with
    | same => exact .refl _
    | steps _ form form' named named' steps =>
      exact agree_named named named' steps fun c hc es' hrun =>
        ih es' (declares_named h1 hc hrun)
    | listedSteps _ steps =>
      dsimp only
      rw [Steps.ofValue, Steps.ofValue, Steps.ofItems_eq, Steps.ofItems_eq]
      refine agree_mapM_zipIdx ((forall₂_mem_left steps).imp ?_)
      rintro item item' ⟨hitem, hbody⟩ n
      exact agree_listedStep hbody (fun fields es' hfields hrun =>
        ih es' (.listed h1 hitem hfields hrun)) n
    | keyedSteps _ steps =>
      dsimp only
      rw [Steps.ofValue, Steps.ofValue, Steps.ofKeyed_eq, Steps.ofKeyed_eq]
      refine agree_mapM ((forall₂_mem_left steps).imp ?_)
      rintro e e' ⟨he, hbody⟩
      cases hbody with
      | intro key body =>
        exact agree_keyedStep body (fun fields es' hfields hrun =>
          ih es' (.keyed h1 he hfields hrun)) _
    | inputs isKey => exact absurd isKey (string_ne (by decide))
    | requirements list isKey => exact absurd isKey (string_ne (by cases list <;> decide))

theorem agree_ofAttributes {around around' : Surroundings} (ha : SameAround around around')
    (h : List.Forall₂ SameEntry es es') (c : ProcessClass) (id : Option String) (name : String)
    (steps : List Step) :
    Agree (CwlProcess.ofAttributes around es c id name steps)
      (CwlProcess.ofAttributes around' es' c id name steps) := by
  have hget : ∀ {key : String}, key ∉ rewrittenKeys → es.get? key = es'.get? key :=
    fun hkey => get?_sameEntries h hkey
  rw [CwlProcess.ofAttributes, CwlProcess.ofAttributes]
  refine (Agree.of_eq (text_congr (hget (by decide)))).bind fun label =>
    (Agree.of_eq (doc_congr (hget (by decide)))).bind fun doc =>
    (agree_inputs_sameEntries h).bind fun inputs =>
    (Agree.of_eq (requirements_sameEntries h)).bind fun requirements =>
    (Agree.of_eq (requirements_sameEntries h)).bind fun hints =>
    Agree.bind (.of_eq ?_) fun baseCommand => .of_eq ?_
  · rw [Attributes.baseCommand, Attributes.baseCommand, hget (by decide)]
  · rw [resolve_sameEntries ha h]

/-- Processes written in two ways are read alike. -/
theorem agree_process (es : Entries) : ReadAlike es := by
  induction es using declares_induction with
  | h es ih =>
    intro es' h around around' origin ha
    have hget : ∀ {key : String}, key ∉ rewrittenKeys → es.get? key = es'.get? key :=
      fun hkey => get?_sameEntries h hkey
    rw [CwlProcess.ofEntries_eq, CwlProcess.ofEntries_eq]
    refine Agree.bind (.of_eq ?_) fun c => Agree.bind (.of_eq ?_) fun id =>
      Agree.bind ?_ fun steps => agree_ofAttributes ha h c id _ steps
    · rw [Attributes.processClass, Attributes.processClass, hget (by decide)]
    · exact text_congr (hget (by decide))
    · rw [← ha.prefixes]
      -- only the steps of a workflow declare processes, to which the hypothesis applies
      by_cases hc : c = .workflow
      · rw [if_pos hc, if_pos hc]
        exact agree_steps h ih
      · rw [if_neg hc, if_neg hc]
        exact .refl _

/-! ### Documents -/

theorem sameEntries_refl (es : Entries) : List.Forall₂ SameEntry es es :=
  List.forall₂_same.mpr fun e _ => .same e

theorem sameItems_refl (items : List Value) : List.Forall₂ SameItem items items :=
  List.forall₂_same.mpr fun v _ => .same v

theorem agree_items {around around' : Surroundings} (ha : SameAround around around')
    {items items' : List Value} (h : List.Forall₂ SameItem items items') :
    Agree ((items.zipIdx 1).mapM fun (item, n) => Document.readItem around n item)
      ((items'.zipIdx 1).mapM fun (item, n) => Document.readItem around' n item) := by
  refine agree_mapM_zipIdx (h.imp ?_)
  intro item item' hitem n
  dsimp only
  rw [Document.readItem, Document.readItem]
  cases hitem with
  | same =>
    cases item.asEntries? with
    | none => exact agree_error _ _
    | some fields => exact agree_process fields fields (sameEntries_refl fields) _ _ _ ha
  | process mapping mapping' process =>
    rw [← Value.asEntries?_eq_some] at mapping mapping'
    rw [mapping, mapping']
    exact agree_process _ _ process _ _ _ ha

/-- The processes that a root declares, once its namespaces are read. -/
theorem processes_ofValue {v : Value} (h : v.untag = .mapping es) :
    Document.processes <$> Document.ofValue v =
      Document.readNamespaces es >>= fun ns => Document.readProcesses (ns.map (·.1)) es := by
  rw [← Value.asEntries?_eq_some] at h
  rw [Document.ofValue, h]
  show Document.processes <$> (Document.readNamespaces es >>= fun ns =>
    Document.readProcesses (ns.map (·.1)) es >>= fun ps => pure _) = _
  simp only [map_bind, map_pure, bind_pure]

theorem readNamespaces_congr (h : es.get? "$namespaces" = es'.get? "$namespaces") :
    Document.readNamespaces es = Document.readNamespaces es' := by
  rw [Document.readNamespaces, Document.readNamespaces, h]

/-- Documents written in two ways declare the same processes. -/
theorem agree_document {v v' : Value} (h : SameDocument v v') :
    Agree (Document.processes <$> Document.ofValue v)
      (Document.processes <$> Document.ofValue v') := by
  cases h with
  | single mapping mapping' noGraph process =>
    rw [processes_ofValue mapping, processes_ofValue mapping']
    refine Agree.bind (.of_eq (readNamespaces_congr (get?_sameEntries process (by decide))))
      fun ns => ?_
    rcases get?_of_forall₂ (fun _ _ => SameEntry.key_eq) process "$graph" with
      ⟨-, h2⟩ | ⟨v, v', h1, -, -⟩
    · rw [Document.readProcesses, Document.readProcesses, noGraph, h2]
      exact (agree_process _ _ process _ _ _ (.refl _)).bind fun p => .refl _
    · rw [noGraph] at h1
      exact nomatch h1
  | @packed es es' mapping mapping' hasGraph root =>
    rw [processes_ofValue mapping, processes_ofValue mapping']
    refine Agree.bind (.of_eq (readNamespaces_congr (get?_sameRoot root (by decide)))) fun ns => ?_
    have ha : SameAround ⟨ns.map (·.1), some es⟩ ⟨ns.map (·.1), some es'⟩ :=
      ⟨rfl, find?_congr fun name hname => get?_sameRoot root hname⟩
    rcases get?_of_forall₂ (fun _ _ => SameRootEntry.key_eq) root "$graph" with
      ⟨h1, -⟩ | ⟨v, v', h1, h2, he⟩
    · exact absurd h1 hasGraph
    · rw [Document.readProcesses, Document.readProcesses, h1, h2]
      cases he with
      | same =>
        dsimp only
        cases v.asItems? with
        | none => exact agree_error _ _
        | some items => exact agree_items ha (sameItems_refl items)
      | graph _ list list' processes =>
        rw [← Value.asItems?_eq_some] at list list'
        dsimp only
        rw [list, list']
        exact agree_items ha processes

/-! ### What is asked of a document -/

/-- **The two forms of collections mean the same.**  Requirements in either form are read
as the same requirements in the same order, or refused for the same fault.  So are
steps, and inputs are read as the same inputs or refused in both forms.  Documents that
differ only in such forms, wherever in them, declare the same processes or are both
refused; whatever entry point is asked for, the same is selected in them, the same
issues are raised and the same tools are unsupported. -/
theorem forms_agree :
    (∀ (list : RequirementList) (rs : List (String × Entries)) (form form' : Form)
      (es es' : Entries) (owner : String), Classed rs →
        es.get? list.key = some (form.requirements rs) →
        es'.get? list.key = some (form'.requirements rs) →
        Attributes.requirements list es owner = Attributes.requirements list es' owner) ∧
    (∀ (cs : List (Value × Entries)) (form form' : Form) (es es' : Entries) (owner : String),
        Named cs → es.get? "inputs" = some (form.named cs) →
        es'.get? "inputs" = some (form'.named cs) →
        Agree (Attributes.inputs es owner) (Attributes.inputs es' owner)) ∧
    (∀ (cs : List (Value × Entries)) (form form' : Form) (prefixes : List String)
      (owner : String), Named cs →
        Steps.ofValue prefixes owner (form.named cs) =
          Steps.ofValue prefixes owner (form'.named cs)) ∧
    (∀ (cs cs' : List (Value × Entries)) (form form' : Form) (prefixes : List String)
      (owner : String), Named cs → Named cs' → List.Forall₂ SameStep cs cs' →
        Agree (Steps.ofValue prefixes owner (form.named cs))
          (Steps.ofValue prefixes owner (form'.named cs'))) ∧
    ∀ v v' : Value, SameDocument v v' →
      Agree (Document.processes <$> Document.ofValue v)
        (Document.processes <$> Document.ofValue v') ∧
      ∀ (d d' : Document) (text text' : String) (entry : Option String),
        Document.ofValue v = .ok d → Document.ofValue v' = .ok d' →
        let p : Package := ⟨text, d⟩
        let p' : Package := ⟨text', d'⟩
        p.select entry = p'.select entry ∧ p.issues entry = p'.issues entry ∧
          (p.select entry).unsupported = (p'.select entry).unsupported := by
  refine ⟨?_, ?_, ?_, ?_, ?_⟩
  · intro list rs form form' es es' owner classed hget hget'
    rw [requirements_form form classed hget, requirements_form form' classed hget']
  · intro cs form form' es es' owner named hget hget'
    exact agree_inputs_forms named hget hget'
  · intro cs form form' prefixes owner named
    rw [ofValue_form form named, ofValue_form form' named]
  · intro cs cs' form form' prefixes owner named named' steps
    exact agree_named named named' steps fun _ _ es _ => agree_process es
  · intro v v' h
    refine ⟨agree_document h, ?_⟩
    intro d d' text text' entry hd hd'
    have hagree := agree_document h d.processes
    rw [hd, hd'] at hagree
    have hsame : (.ok d'.processes : Except Malformed _) = .ok d.processes := hagree.mp rfl
    rw [Except.ok.injEq] at hsame
    exact Package.selected_congr ⟨text, d⟩ ⟨text', d'⟩ hsame.symm entry

/-- A Docker requirement with its image. -/
def sampleRequirements : List (String × Entries) :=
  [(dockerClass, [(.string "dockerPull", .string "image")])]

/-- An input with its title. -/
def sampleInputs : List (Value × Entries) := [(.string "x", [(.string "label", .string "X")])]

/-- A step that declares a tool, whose requirements are in some form. -/
def sampleSteps (form : Form) : List (Value × Entries) :=
  [(.string "s", [(.string "run", .mapping
    [ (.string "class", .string "CommandLineTool")
    , (.string "requirements", form.requirements sampleRequirements)])])]

/-- A workflow with an input and a step, every collection in one form. -/
def sample (form : Form) : Value :=
  .mapping
    [ (.string "class", .string "Workflow")
    , (.string "id", .string "main")
    , (.string "inputs", form.named sampleInputs)
    , (.string "steps", form.named (sampleSteps form))]

theorem forms_agree_sample :
    Attributes.requirements .requirements
        [(.string "requirements", Form.list.requirements sampleRequirements)] "tool" =
      Attributes.requirements .requirements
        [(.string "requirements", Form.mapping.requirements sampleRequirements)] "tool" ∧
    Agree (Attributes.inputs [(.string "inputs", Form.list.named sampleInputs)] "main")
      (Attributes.inputs [(.string "inputs", Form.mapping.named sampleInputs)] "main") ∧
    Steps.ofValue [] "main" (Form.list.named (sampleSteps .list)) =
      Steps.ofValue [] "main" (Form.mapping.named (sampleSteps .list)) ∧
    Agree (Steps.ofValue [] "main" (Form.list.named (sampleSteps .list)))
      (Steps.ofValue [] "main" (Form.mapping.named (sampleSteps .mapping))) ∧
    ∃ d d', Document.ofValue (sample .list) = .ok d ∧
      Document.ofValue (sample .mapping) = .ok d' ∧
      ∀ entry, (⟨"", d⟩ : Package).select entry = (⟨"", d'⟩ : Package).select entry := by
  have hnamed : ∀ {k : String} {f : Entries}, f.get? "id" = none → Named [(.string k, f)] := by
    intro k f hf c hc
    obtain rfl := List.mem_singleton.mp hc
    exact ⟨.string k, hf⟩
  have hclassed : Classed sampleRequirements := by
    intro r hr e he
    obtain rfl := List.mem_singleton.mp hr
    obtain rfl := List.mem_singleton.mp he
    exact string_ne (by decide)
  have hsteps : List.Forall₂ SameStep (sampleSteps .list) (sampleSteps .mapping) :=
    .cons (.intro _ <| .cons (.run rfl <| .cons (.same _) <|
      .cons (.requirements .requirements rfl _ _ hclassed) .nil) .nil) .nil
  have hsame : SameDocument (sample .list) (sample .mapping) :=
    .single rfl rfl rfl <| .cons (.same _) <| .cons (.same _) <|
      .cons (.inputs rfl _ _ (hnamed rfl)) <|
      .cons (.steps rfl _ _ (hnamed rfl) (hnamed rfl) hsteps) .nil
  obtain ⟨d, hd⟩ : ∃ d, Document.ofValue (sample .list) = .ok d := ⟨_, rfl⟩
  obtain ⟨d', hd'⟩ : ∃ d, Document.ofValue (sample .mapping) = .ok d := ⟨_, rfl⟩
  obtain ⟨hrequirements, hinputs, hstepsForm, hstepsAgree, hdocument⟩ := forms_agree
  refine ⟨?_, ?_, ?_, ?_, d, d', hd, hd', ?_⟩
  · exact hrequirements .requirements sampleRequirements .list .mapping _ _ _ hclassed rfl rfl
  · exact hinputs sampleInputs .list .mapping _ _ _ (hnamed rfl) rfl rfl
  · exact hstepsForm (sampleSteps .list) .list .mapping _ _ (hnamed rfl)
  · exact hstepsAgree _ _ .list .mapping _ _ (hnamed rfl) (hnamed rfl) hsteps
  · exact fun entry => ((hdocument _ _ hsame).2 d d' "" "" entry hd hd').1

end CwlCompliance
