import CwlCompliance.Process.Document
import Mathlib.Data.List.Basic

/-!
# How processes are read

The reading of a process walks down the document itself, through its steps to the
processes declared in place.  Here it is put in terms of looking up a key and reading a
list, with the processes declared in place read like any other, and with the induction
that belongs to it: over the processes that a process declares inside it.

## Main definitions

* `Attributes.readRequirement` — a requirement whose shape is settled.
* `CwlProcess.ofAttributes` — the process whose class, identifier and steps are read.
* `Steps.ofFields` — the step that entries declare, given its identifier.
* `Declares es es'` — some step in the entries `es` runs a process with entries `es'`.

## Main results

* `Attributes.requirements_eq`, `CwlProcess.ofEntries_eq`, `Steps.ofEntries_eq`,
  `Steps.ofItems_eq`, `Steps.ofKeyed_eq`, … — the reading without its recursion.
* `declares_induction` — **induction over the processes declared in place.**
-/

namespace CwlCompliance

open Yaml

/-! ### Looking at values -/

namespace Yaml

theorem Value.asEntries?_tagged (tag : String) (v : Value) :
    (Value.tagged tag v).asEntries? = v.asEntries? := rfl

theorem Value.asString?_eq_some {v : Value} {s : String} :
    v.asString? = some s ↔ v.untag = .string s := by
  rw [asString?]
  cases v.untag <;> simp

theorem Value.asEntries?_eq_some {v : Value} {es : Entries} :
    v.asEntries? = some es ↔ v.untag = .mapping es := by
  rw [asEntries?]
  cases v.untag <;> simp

theorem Value.asItems?_eq_some {v : Value} {items : List Value} :
    v.asItems? = some items ↔ v.untag = .sequence items := by
  rw [asItems?]
  cases v.untag <;> simp

theorem Value.untag_ne_mapping {v : Value} (h : v.asEntries? = none) (es : Entries) :
    v.untag ≠ .mapping es := by
  intro hes
  rw [← asEntries?_eq_some, h] at hes
  exact nomatch hes

theorem Value.sizeOf_untag_le : ∀ v : Value, sizeOf v.untag ≤ sizeOf v
  | .tagged tag v => by
    have h := sizeOf_untag_le v
    rw [untag]
    simp only [tagged.sizeOf_spec]
    omega
  | .null | .bool _ | .number _ | .string _ | .sequence _ | .mapping _ => Nat.le_refl _

theorem Entries.get?_cons (key v : Value) (es : Entries) (name : String) :
    Entries.get? ((key, v) :: es) name = if key.isKey name then some v else es.get? name := by
  rw [get?, List.find?_cons]
  cases key.isKey name <;> rfl

theorem Entries.exists_mem_of_get? {es : Entries} {name : String} {v : Value}
    (h : es.get? name = some v) : ∃ e ∈ es, e.2 = v := by
  obtain ⟨e, he, rfl⟩ := Option.map_eq_some_iff.mp h
  exact ⟨e, List.mem_of_find?_eq_some he, rfl⟩

theorem Entries.sizeOf_snd_lt {es : Entries} {e : Value × Value} (h : e ∈ es) :
    sizeOf e.2 < sizeOf es := by
  have hlt := List.sizeOf_lt_of_mem h
  obtain ⟨key, v⟩ := e
  simp only [Prod.mk.sizeOf_spec] at hlt
  show sizeOf v < sizeOf es
  omega

theorem Entries.sizeOf_get?_lt {es : Entries} {name : String} {v : Value}
    (h : es.get? name = some v) : sizeOf v < sizeOf es := by
  obtain ⟨e, he, rfl⟩ := exists_mem_of_get? h
  exact sizeOf_snd_lt he

theorem Value.sizeOf_asEntries?_lt {v : Value} {es : Entries} (h : v.asEntries? = some es) :
    sizeOf es < sizeOf v := by
  have hle := sizeOf_untag_le v
  rw [asEntries?_eq_some.mp h] at hle
  simp only [mapping.sizeOf_spec] at hle
  omega

end Yaml

/-! ### Reading without recursion -/

namespace Attributes

/-- A requirement with its class is read. -/
abbrev readRequirement (list : RequirementList) (owner : String) (x : String × Entries) :
    Except Malformed Requirement :=
  requirement list owner x.1 x.2

/-- The requirements in one of the lists: their shapes first, then their fields. -/
theorem requirements_eq {list : RequirementList} {es : Entries} {owner : String} :
    requirements list es owner =
    match es.get? list.key with
    | none | some .null => .ok none
    | some (.sequence items) => some <$>
      (((items.zipIdx 1).mapM fun (item, n) => listedRequirement list owner n item) >>=
        fun shaped => shaped.mapM (readRequirement list owner))
    | some (.mapping bodies) => some <$>
      ((bodies.mapM fun (key, body) => keyedRequirement list owner key body) >>=
        fun shaped => shaped.mapM (readRequirement list owner))
    | some _ => .error (.requirementsNotCollection list owner) := by
  rw [requirements]
  cases es.get? list.key with
  | none => rfl
  | some v =>
    cases v with
    | sequence items => simp only [map_bind, bind_pure_comp]
    | mapping bodies => simp only [map_bind, bind_pure_comp]
    | null | bool _ | number _ | string _ | tagged _ _ => rfl

end Attributes

namespace CwlProcess

/-- The process that entries declare, given what of it is read already. -/
def ofAttributes (around : Surroundings) (es : Entries) (c : ProcessClass) (id : Option String)
    (name : String) (steps : List Step) : Except Malformed CwlProcess := do
  let label ← Attributes.text es "label" name
  let doc ← Attributes.doc es name
  let inputs ← Attributes.inputs es name
  let requirements ← Attributes.requirements .requirements es name
  let hints ← Attributes.requirements .hints es name
  let baseCommand ← Attributes.baseCommand es name
  return {
    processClass := c, id, label, doc, inputs, requirements, hints, baseCommand, steps
    provenance := if c = .workflow then Provenance.resolve around.prefixes es around.root else [] }

/-- A process is read in this order: class, identifier, steps, and the rest. -/
theorem ofEntries_eq (around : Surroundings) (origin : String) (es : Entries) :
    ofEntries around origin es = (do
      let c ← Attributes.processClass es origin
      let id ← Attributes.text es "id" origin
      let name := describe c id origin
      let steps ← (if c = .workflow then Steps.ofEntries around.prefixes name es else .ok [])
      ofAttributes around es c id name steps) := by
  rw [ofEntries, assemble]
  refine bind_congr fun c => bind_congr fun id => ?_
  by_cases hc : c = .workflow
  · simp only [hc, if_true]
    rfl
  · simp only [ofAttributes, hc, if_false]
    rfl

end CwlProcess

namespace Steps

variable (prefixes : List String) (owner : String)

/-- The step that entries declare, given its identifier. -/
def ofFields (id : Option String) (es : Entries) : Except Malformed Step :=
  (fun run => ⟨id, run⟩) <$> targetIn prefixes (Step.describe id owner) es

theorem ofEntries_eq (es : Entries) : ofEntries prefixes owner es =
    match es.get? "steps" with
    | none => .ok []
    | some v => ofValue prefixes owner v := by
  induction es with
  | nil => rfl
  | cons e es ih =>
    obtain ⟨key, v⟩ := e
    rw [ofEntries, Entries.get?_cons, ih]
    cases key.isKey "steps" <;> rfl

theorem targetIn_eq (es : Entries) : targetIn prefixes owner es =
    match es.get? "run" with
    | none => .ok .unspecified
    | some v => targetOf prefixes owner v := by
  induction es with
  | nil => rfl
  | cons e es ih =>
    obtain ⟨key, v⟩ := e
    rw [targetIn, Entries.get?_cons, ih]
    cases key.isKey "run" <;> rfl

/-- A process declared in place is read like any other, without a root to look at. -/
theorem targetOf_mapping (es : Entries) : targetOf prefixes owner (.mapping es) =
    .inline <$> CwlProcess.ofEntries ⟨prefixes, none⟩ owner es := by
  rw [targetOf]
  rfl

theorem ofItems_eq (items : List Value) : ∀ n, ofItems prefixes owner n items =
    (items.zipIdx n).mapM fun (item, k) => ofItem prefixes owner k item := by
  induction items with
  | nil => intro n; rfl
  | cons item items ih =>
    intro n
    rw [ofItems, ih, List.zipIdx_cons, List.mapM_cons]

theorem ofKeyed_eq (bodies : Entries) : ofKeyed prefixes owner bodies =
    bodies.mapM fun (key, body) => ofBody prefixes owner key.scalarText? body := by
  induction bodies with
  | nil => rfl
  | cons e bodies ih =>
    obtain ⟨key, body⟩ := e
    rw [ofKeyed, ih, List.mapM_cons]

theorem ofItem_eq (n : ℕ) : ∀ item : Value, ofItem prefixes owner n item =
    match item.asEntries? with
    | none => .error (.stepNotMapping n owner)
    | some es => Attributes.text es "id" owner >>= fun id => ofFields prefixes owner id es
  | .tagged tag item => by
    rw [ofItem, Value.asEntries?_tagged]
    exact ofItem_eq n item
  | .mapping es => by
    rw [ofItem]
    rfl
  | .null | .bool _ | .number _ | .string _ | .sequence _ => by
    rw [ofItem]
    · rfl
    all_goals simp

theorem ofBody_eq (id : Option String) : ∀ body : Value, ofBody prefixes owner id body =
    match body.asEntries? with
    | none => .error (.stepBodyNotMapping owner)
    | some es => ofFields prefixes owner id es
  | .tagged tag body => by
    rw [ofBody, Value.asEntries?_tagged]
    exact ofBody_eq id body
  | .mapping es => by
    rw [ofBody]
    rfl
  | .null | .bool _ | .number _ | .string _ | .sequence _ => by
    rw [ofBody]
    · rfl
    all_goals simp

end Steps

/-! ### Processes declared in place -/

/-- Some step in the entries `es` runs a process with entries `es'`. -/
inductive Declares (es es' : Entries) : Prop
  /-- The step stands in a list. -/
  | listed {items : List Value} {item : Value} {fields : Entries}
      (steps : es.get? "steps" = some (.sequence items)) (mem : item ∈ items)
      (entries : item.asEntries? = some fields) (run : fields.get? "run" = some (.mapping es'))
  /-- The step stands in a mapping. -/
  | keyed {bodies : Entries} {e : Value × Value} {fields : Entries}
      (steps : es.get? "steps" = some (.mapping bodies)) (mem : e ∈ bodies)
      (entries : e.2.asEntries? = some fields) (run : fields.get? "run" = some (.mapping es'))

theorem Declares.sizeOf_lt {es es' : Entries} (h : Declares es es') : sizeOf es' < sizeOf es := by
  have hfields : ∀ {item : Value} {fields : Entries}, item.asEntries? = some fields →
      fields.get? "run" = some (.mapping es') → sizeOf es' < sizeOf item := by
    intro item fields hitem hrun
    have h1 := Value.sizeOf_asEntries?_lt hitem
    have h2 := Entries.sizeOf_get?_lt hrun
    simp only [Value.mapping.sizeOf_spec] at h2
    omega
  cases h with
  | listed steps mem entries run =>
    have h1 := hfields entries run
    have h2 := List.sizeOf_lt_of_mem mem
    have h3 := Entries.sizeOf_get?_lt steps
    simp only [Value.sequence.sizeOf_spec] at h3
    omega
  | keyed steps mem entries run =>
    have h1 := hfields entries run
    have h2 := Entries.sizeOf_snd_lt mem
    have h3 := Entries.sizeOf_get?_lt steps
    simp only [Value.mapping.sizeOf_spec] at h3
    omega

/-- **Induction over the processes declared in place**: what holds of entries as soon
as it holds of those they declare holds of all entries. -/
theorem declares_induction {P : Entries → Prop}
    (h : ∀ es, (∀ es', Declares es es' → P es') → P es) (es : Entries) : P es := by
  induction hn : sizeOf es using Nat.strongRecOn generalizing es with
  | ind n ih =>
    subst hn
    exact h es fun es' hes' => ih _ hes'.sizeOf_lt es' rfl

end CwlCompliance
