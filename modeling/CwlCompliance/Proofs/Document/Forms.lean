import CwlCompliance.Proofs.Document.Agreement
import CwlCompliance.Proofs.Document.Attributes

/-!
# The two forms of collections

Requirements, inputs and steps can be written as a list, whose items name what they are,
or as a mapping, whose keys do.

## Main definitions

* `Form.requirements`, `Form.named` — a collection written in a form.
* `Classed`, `Named` — the collections that can be written in both forms.

## Main results

* `requirements_form` — requirements are read the same in both forms, faults included.
* `agree_inputs_forms`, `ofValue_form` — so are inputs and steps.
-/

namespace CwlCompliance

open Yaml

variable {es es' f : Entries} {prefixes : List String} {owner owner' : String}

/-- The forms of a collection. -/
inductive Form where
  /-- A list. -/
  | list
  /-- A mapping. -/
  | mapping

/-- Requirements, each a class with its fields, in a form. -/
def Form.requirements : Form → List (String × Entries) → Value
  | list, rs => .sequence (rs.map fun r => .mapping ((.string "class", .string r.1) :: r.2))
  | mapping, rs =>
    .mapping (rs.map fun r => (.string r.1, if r.2.isEmpty then .null else .mapping r.2))

/-- Inputs or steps, each an identifier with its fields, in a form. -/
def Form.named : Form → List (Value × Entries) → Value
  | list, cs => .sequence (cs.map fun c => .mapping ((.string "id", c.1) :: c.2))
  | mapping, cs => .mapping (cs.map fun c => (c.1, .mapping c.2))

/-- No field of the requirements is a class. -/
def Classed (rs : List (String × Entries)) : Prop :=
  ∀ r ∈ rs, ∀ e ∈ r.2, e.1.untag ≠ .string "class"

/-- The identifiers are scalars, and no field is one. -/
def Named (cs : List (Value × Entries)) : Prop := ∀ c ∈ cs, IsScalar c.1 ∧ c.2.get? "id" = none

/-! ### Requirements -/

variable {list : RequirementList} {rs : List (String × Entries)}

theorem listedRequirement_mapping {c : String} (n : ℕ)
    (h : ∀ e ∈ f, e.1.untag ≠ .string "class") :
    Attributes.listedRequirement list owner n (.mapping ((.string "class", .string c) :: f)) =
      .ok (c, f) := by
  have hfilter : (((Value.string "class", Value.string c) :: f).filter
      fun e => e.1.asString? != some "class") = f := by
    rw [List.filter_cons, if_neg (by simp [Value.asString?, Value.untag]), List.filter_eq_self]
    intro e he
    rw [bne_iff_ne, ne_eq, Value.asString?_eq_some]
    exact h e he
  show Except.ok (c, _) = Except.ok (c, f)
  rw [hfilter]

/-- Requirements are read the same in both forms, faults included. -/
theorem requirements_form (form : Form) (h : Classed rs)
    (hget : es.get? list.key = some (form.requirements rs)) :
    Attributes.requirements list es owner =
      some <$> rs.mapM (Attributes.readRequirement list owner) := by
  rw [Attributes.requirements_eq, hget]
  -- the first pass gives the requirements back, whatever the form
  cases form with
  | list =>
    have hshape : (((rs.map fun r => Value.mapping ((.string "class", .string r.1) :: r.2)).zipIdx
        1).mapM fun x => Attributes.listedRequirement list owner x.2 x.1) = .ok rs := by
      rw [Reading.mapM_eq_ok]
      refine forall₂_zipIdx_left ?_
      rw [List.forall₂_map_left_iff, List.forall₂_same]
      exact fun r hr n => listedRequirement_mapping n (h r hr)
    dsimp only [Form.requirements]
    rw [hshape]
    rfl
  | mapping =>
    have hshape : ((rs.map fun r => (Value.string r.1,
        if r.2.isEmpty then .null else .mapping r.2)).mapM
          fun x => Attributes.keyedRequirement list owner x.1 x.2) = .ok rs := by
      rw [Reading.mapM_eq_ok, List.forall₂_map_left_iff, List.forall₂_same]
      rintro ⟨c, fields⟩ -
      cases fields <;> rfl
    dsimp only [Form.requirements]
    rw [hshape]
    rfl

/-! ### Inputs -/

variable {k v : Value} {cs : List (Value × Entries)}

theorem get?_id_cons {key : String} (hkey : key ≠ "id") :
    Entries.get? ((.string "id", k) :: f) key = f.get? key := by
  rw [Entries.get?_cons, if_neg]
  simpa [Value.isKey] using hkey.symm

theorem text_id_cons (hk : IsScalar k) :
    Attributes.text ((.string "id", k) :: f) "id" owner = .ok k.scalarText? := by
  have hget : Entries.get? ((.string "id", k) :: f) "id" = some k := by
    rw [Entries.get?_cons, if_pos (by simp [Value.isKey])]
  rw [Attributes.text, hget]
  cases hk <;> rfl

theorem agree_keyedInput (key item : Value) :
    Agree (Attributes.keyedInput owner key item) (Attributes.keyedInput owner' key item) := by
  rw [Attributes.keyedInput, Attributes.keyedInput]
  cases key.scalarText? with
  | none => exact agree_error _ _
  | some id =>
    cases item.asEntries? with
    | none => exact .refl _
    | some fields =>
      exact (agree_text rfl _ _).bind fun label => (agree_doc rfl _ _).bind fun doc => .refl _

theorem agree_listedInput (n : ℕ) (hk : IsScalar k) :
    Agree (Attributes.listedInput owner n (.mapping ((.string "id", k) :: f)))
      (Attributes.keyedInput owner' k (.mapping f)) := by
  obtain ⟨id, hid⟩ := isScalar_iff.mp hk
  rw [Attributes.keyedInput, hid]
  show Agree (Attributes.text ((.string "id", k) :: f) "id" _ >>= _) _
  rw [text_id_cons hk, hid]
  exact (agree_text (get?_id_cons (by decide)) _ _).bind fun label =>
    (agree_doc (get?_id_cons (by decide)) _ _).bind fun doc => .refl _

theorem agree_inputs_mapping (form : Form) (owner owner' : String) (h : Named cs)
    (hget : es.get? "inputs" = some (form.named cs))
    (hget' : es'.get? "inputs" = some (Form.mapping.named cs)) :
    Agree (Attributes.inputs es owner) (Attributes.inputs es' owner') := by
  rw [Attributes.inputs, Attributes.inputs, hget, hget']
  cases form with
  | list =>
    refine Agree.map (agree_mapM_zipIdx_left ?_)
    rw [List.forall₂_map_left_iff, List.forall₂_map_right_iff, List.forall₂_same]
    exact fun c hc n => agree_listedInput n (h c hc).1
  | mapping =>
    refine Agree.map (agree_mapM ?_)
    rw [List.forall₂_same]
    exact fun e _ => agree_keyedInput e.1 e.2

/-- Inputs are read the same in both forms. -/
theorem agree_inputs_forms {form form' : Form} (h : Named cs)
    (hget : es.get? "inputs" = some (form.named cs))
    (hget' : es'.get? "inputs" = some (form'.named cs)) :
    Agree (Attributes.inputs es owner) (Attributes.inputs es' owner') := by
  -- each form agrees with the mapping, whose owner may be another
  have hmiddle : Entries.get? [(.string "inputs", Form.mapping.named cs)] "inputs" =
      some (Form.mapping.named cs) := by
    rw [Entries.get?_cons, if_pos (by simp [Value.isKey])]
  exact (agree_inputs_mapping form owner owner h hget hmiddle).trans
    (agree_inputs_mapping form' owner' owner h hget' hmiddle).symm

/-! ### Steps -/

/-- A step in a list is the step in a mapping. -/
theorem ofItem_named (n : ℕ) (hk : IsScalar k) :
    Steps.ofItem prefixes owner n (.mapping ((.string "id", k) :: f)) =
      Steps.ofBody prefixes owner k.scalarText? (.mapping f) := by
  rw [Steps.ofItem_eq, Steps.ofBody_eq]
  show Attributes.text ((.string "id", k) :: f) "id" owner >>= _ = Steps.ofFields _ _ _ f
  rw [text_id_cons hk]
  show Steps.ofFields prefixes owner k.scalarText? _ = _
  rw [Steps.ofFields, Steps.ofFields, Steps.targetIn_eq, Steps.targetIn_eq,
    get?_id_cons (by decide)]

/-- Steps are read the same in both forms, faults included. -/
theorem ofValue_form (form : Form) (h : Named cs) :
    Steps.ofValue prefixes owner (form.named cs) =
      cs.mapM fun c => Steps.ofBody prefixes owner c.1.scalarText? (.mapping c.2) := by
  cases form with
  | list =>
    rw [Form.named, Steps.ofValue, Steps.ofItems_eq]
    refine Reading.mapM_congr (forall₂_zipIdx_left ?_)
    rw [List.forall₂_map_left_iff, List.forall₂_same]
    exact fun c hc n => ofItem_named n (h c hc).1
  | mapping =>
    rw [Form.named, Steps.ofValue, Steps.ofKeyed_eq]
    refine Reading.mapM_congr ?_
    rw [List.forall₂_map_left_iff, List.forall₂_same]
    exact fun c _ => rfl

end CwlCompliance
