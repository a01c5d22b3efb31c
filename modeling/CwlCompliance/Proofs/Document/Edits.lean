import CwlCompliance.Proofs.Document.Origin

/-!
# Edits of a document

An edit changes what stands under one key, or the mapping that declares the process at one
place, and leaves the rest as it is.  Tags on the way stay.

## Main definitions

* `Value.mapEntries`, `Value.mapItems` — a mapping, or a list, changed under its tags.
* `Entries.amend` — entries with the value under one key changed.
* `Entries.insert` — entries with one more under a text key.
* `amendInner`, `amendAt` — a document with the mapping at a place changed.

## Main results

* `Entries.get?_amend_self`, `Entries.get?_amend_of_ne`, `Entries.get?_insert_of_ne`, … —
  what stands under a key after an edit.
* `get?_amendAt` — what stands at the root after an edit at a place.
-/

namespace CwlCompliance

namespace Yaml

/-! ### Under tags -/

/-- A value with the entries of the mapping that it is changed. -/
def Value.mapEntries (f : Entries → Entries) : Value → Value
  | .tagged tag v => .tagged tag (v.mapEntries f)
  | .mapping es => .mapping (f es)
  | .null => .null
  | .bool b => .bool b
  | .number n => .number n
  | .string s => .string s
  | .sequence items => .sequence items

/-- A value with the items of the list that it is changed. -/
def Value.mapItems (f : List Value → List Value) : Value → Value
  | .tagged tag v => .tagged tag (v.mapItems f)
  | .sequence items => .sequence (f items)
  | .null => .null
  | .bool b => .bool b
  | .number n => .number n
  | .string s => .string s
  | .mapping es => .mapping es

theorem Value.asEntries?_mapEntries (f : Entries → Entries) :
    ∀ v : Value, (v.mapEntries f).asEntries? = v.asEntries?.map f
  | .tagged tag v => by
    rw [mapEntries, asEntries?_tagged, asEntries?_tagged]
    exact asEntries?_mapEntries f v
  | .null | .bool _ | .number _ | .string _ | .sequence _ | .mapping _ => rfl

theorem Value.asItems?_mapItems (f : List Value → List Value) :
    ∀ v : Value, (v.mapItems f).asItems? = v.asItems?.map f
  | .tagged tag v => by
    rw [mapItems]
    exact asItems?_mapItems f v
  | .null | .bool _ | .number _ | .string _ | .sequence _ | .mapping _ => rfl

/-! ### Under a key -/

/-- A value is one text key only. -/
theorem Value.isKey_ne {key : Value} {name other : String} (h : key.isKey name = true)
    (hne : other ≠ name) : key.isKey other = false := by
  cases key with
  | string s =>
    rw [isKey, beq_iff_eq] at h
    rw [isKey, beq_eq_false_iff_ne, h]
    exact hne.symm
  | null | bool _ | number _ | sequence _ | mapping _ | tagged _ _ => rfl

namespace Entries

/-- Entries with the value under a text key changed. -/
def amend (name : String) (f : Value → Value) : Entries → Entries
  | [] => []
  | (key, v) :: rest =>
    if key.isKey name then (key, f v) :: rest else (key, v) :: amend name f rest

/-- Entries with one more, under a text key, at a position among them. -/
def insert (position : ℕ) (name : String) (v : Value) (es : Entries) : Entries :=
  es.insertIdx position (.string name, v)

variable {name other : String} {f : Value → Value} {v : Value}

theorem get?_amend_self (es : Entries) : get? (amend name f es) name = (es.get? name).map f := by
  induction es with
  | nil => rfl
  | cons e es ih =>
    obtain ⟨key, v⟩ := e
    rw [amend, get?_cons]
    by_cases hkey : key.isKey name = true
    · rw [if_pos hkey, if_pos hkey, get?_cons, if_pos hkey, Option.map_some]
    · rw [if_neg hkey, if_neg hkey, get?_cons, if_neg hkey, ih]

theorem get?_amend_of_ne (h : other ≠ name) (es : Entries) :
    get? (amend name f es) other = es.get? other := by
  induction es with
  | nil => rfl
  | cons e es ih =>
    obtain ⟨key, v⟩ := e
    rw [amend, get?_cons]
    by_cases hkey : key.isKey name = true
    · rw [if_pos hkey, get?_cons, Value.isKey_ne hkey h]
      rfl
    · rw [if_neg hkey, get?_cons, ih]

theorem insert_zero (es : Entries) : insert 0 name v es = (.string name, v) :: es :=
  List.insertIdx_zero

theorem get?_insert_of_ne (h : other ≠ name) : ∀ (position : ℕ) (es : Entries),
    get? (insert position name v es) other = es.get? other
  | 0, es => by
    have hkey : (Value.string name).isKey name = true := by simp [Value.isKey]
    rw [insert_zero, get?_cons, Value.isKey_ne hkey h]
    rfl
  | position + 1, [] => rfl
  | position + 1, e :: es => by
    obtain ⟨key, u⟩ := e
    have ih := get?_insert_of_ne h position es
    rw [insert] at ih
    rw [insert, List.insertIdx_succ_cons, get?_cons, get?_cons, ih]

/-- Under the key of a new entry stands the new value, or what stood there before. -/
theorem get?_insert_self : ∀ (position : ℕ) (es : Entries),
    get? (insert position name v es) name = some v ∨
      get? (insert position name v es) name = es.get? name
  | 0, es => by
    rw [insert_zero, get?_cons, if_pos (by simp [Value.isKey])]
    exact .inl rfl
  | position + 1, [] => .inr rfl
  | position + 1, e :: es => by
    obtain ⟨key, u⟩ := e
    have ih := get?_insert_self position es
    rw [insert] at ih
    rw [insert, List.insertIdx_succ_cons, get?_cons, get?_cons]
    by_cases hkey : key.isKey name = true
    · rw [if_pos hkey, if_pos hkey]
      exact .inr rfl
    · rw [if_neg hkey, if_neg hkey]
      exact ih

end Entries

end Yaml

open Yaml

/-! ### At a place -/

/-- The value of a step with the mapping that it declares in place changed. -/
def amendStep (f : Entries → Entries) (item : Value) : Value :=
  item.mapEntries (Entries.amend "run" (Value.mapEntries f))

/-- Steps with what the one at a position declares in place changed. -/
def amendSteps (i : ℕ) (f : Entries → Entries) : Value → Value
  | .sequence items => .sequence (items.modify i (amendStep f))
  | .mapping bodies => .mapping (bodies.modify i fun e => (e.1, amendStep f e.2))
  | .null => .null
  | .bool b => .bool b
  | .number n => .number n
  | .string s => .string s
  | .tagged tag v => .tagged tag v

/-- A mapping with the one that the steps at some positions lead down to changed. -/
def amendInner (f : Entries → Entries) : List ℕ → Entries → Entries
  | [], es => f es
  | i :: path, es => Entries.amend "steps" (amendSteps i (amendInner f path)) es

/-- The root of a document with the mapping that declares the process at a place changed. -/
def amendAt (f : Entries → Entries) : Place → Entries → Entries
  | [], root => root
  | i :: path, root =>
    match root.get? "$graph" with
    | none => if i = 0 then amendInner f path root else root
    | some _ =>
      Entries.amend "$graph" (Value.mapItems fun items =>
        items.modify i (Value.mapEntries (amendInner f path))) root

/-- An edit leaves what stands under a key, if it leaves it in the mapping that it changes. -/
theorem get?_amendInner {f : Entries → Entries} {name : String}
    (hf : ∀ es, (f es).get? name = es.get? name) (hsteps : name ≠ "steps") (path : List ℕ)
    (es : Entries) : (amendInner f path es).get? name = es.get? name := by
  cases path with
  | nil => exact hf es
  | cons i path => exact Entries.get?_amend_of_ne hsteps es

theorem get?_amendAt {f : Entries → Entries} {name : String}
    (hf : ∀ es, (f es).get? name = es.get? name) (hsteps : name ≠ "steps")
    (hgraph : name ≠ "$graph") (a : Place) (root : Entries) :
    (amendAt f a root).get? name = root.get? name := by
  cases a with
  | nil => rfl
  | cons i path =>
    rw [amendAt]
    cases root.get? "$graph" with
    | none =>
      dsimp only
      split
      · exact get?_amendInner hf hsteps path root
      · rfl
    | some graph => exact Entries.get?_amend_of_ne hgraph root

end CwlCompliance
