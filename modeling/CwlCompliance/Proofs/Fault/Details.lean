import CwlCompliance.Fault.Text
import Mathlib.Data.List.Nodup
import Mathlib.Data.List.Sort
import Mathlib.Data.Prod.Lex
import Mathlib.Data.String.Basic

/-!
# Details as a map

The details of a fault are a map from names to values, kept as the sorted list of its
entries.  Such a list is determined by the map: whatever order the entries of the map are
found in, sorting them gives the same list.

## Main definitions

* `Details.Sorted` — the names come in their order, each once.
* `Details.Enumerates pairs m` — the pairs are the entries of the map `m`, in any order.

## Main results

* `Details.get?_insert`, `Details.Sorted.insert` — what one more detail does.
* `Details.Sorted.enumerates` — a sorted list is an enumeration of its map.
* `Details.sort_eq_of_perm` — sorting does not depend on the order in which details are found.
* `Details.sort_eq` — **sorting the entries of a map, found in any order, gives the
  sorted list of the map.**
-/

namespace CwlCompliance

namespace Details

variable {d d' : Details} {name name' value value' : String}

/-- The names come in their order, each once. -/
def Sorted (d : Details) : Prop := d.Pairwise fun x y => x.1 < y.1

/-! ### One more detail -/

theorem get?_cons (n v : String) (d : Details) (name : String) :
    get? ((n, v) :: d) name = if name = n then some v else d.get? name := by
  rw [get?, List.lookup_cons, get?]
  by_cases h : name = n
  · rw [if_pos h, beq_iff_eq.mpr h]
  · rw [if_neg h, beq_false_of_ne h]

/-- The name gets the value, and every other name keeps its own. -/
theorem get?_insert (d : Details) (name value name' : String) :
    (d.insert name value).get? name' = if name' = name then some value else d.get? name' := by
  induction d with
  | nil => exact get?_cons name value [] name'
  | cons x d ih =>
    obtain ⟨n, v⟩ := x
    rw [insert]
    by_cases hbefore : name < n
    · rw [if_pos hbefore, get?_cons]
    rw [if_neg hbefore]
    by_cases hsame : name = n
    · subst hsame
      rw [if_pos rfl, get?_cons, get?_cons]
      by_cases hname : name' = name
      · rw [if_pos hname, if_pos hname]
      · rw [if_neg hname, if_neg hname, if_neg hname]
    · rw [if_neg hsame, get?_cons, ih, get?_cons]
      by_cases hn : name' = n
      · subst hn
        rw [if_pos rfl, if_pos rfl, if_neg (Ne.symm hsame)]
      · rw [if_neg hn, if_neg hn]

theorem eq_or_mem_of_mem_insert {x : String × String} (h : x ∈ d.insert name value) :
    x = (name, value) ∨ x ∈ d := by
  induction d with
  | nil => exact .inl (List.mem_singleton.mp h)
  | cons y d ih =>
    obtain ⟨n, v⟩ := y
    rw [insert] at h
    split_ifs at h with hbefore hsame
    · exact List.mem_cons.mp h
    · rcases List.mem_cons.mp h with rfl | hx
      · exact .inl rfl
      · exact .inr (List.mem_cons_of_mem _ hx)
    · rcases List.mem_cons.mp h with rfl | hx
      · exact .inr List.mem_cons_self
      · exact (ih hx).imp_right (List.mem_cons_of_mem _)

/-- **A step**: the names stay in their order, each once. -/
theorem Sorted.insert (h : d.Sorted) (name value : String) : (d.insert name value).Sorted := by
  induction d with
  | nil => exact List.pairwise_singleton _ _
  | cons x d ih =>
    obtain ⟨n, v⟩ := x
    obtain ⟨hfirst, hrest⟩ := List.pairwise_cons.mp h
    rw [Details.insert]
    split_ifs with hbefore hsame
    · refine List.pairwise_cons.mpr ⟨fun y hy => ?_, h⟩
      rcases List.mem_cons.mp hy with rfl | hy
      · exact hbefore
      · exact hbefore.trans (hfirst y hy)
    · subst hsame
      exact List.pairwise_cons.mpr ⟨hfirst, hrest⟩
    · have hafter : n < name := lt_of_le_of_ne (not_lt.mp hbefore) (Ne.symm hsame)
      refine List.pairwise_cons.mpr ⟨fun y hy => ?_, ih hrest⟩
      rcases eq_or_mem_of_mem_insert hy with rfl | hy
      · exact hafter
      · exact hfirst y hy

/-! ### The entries of a map -/

/-- The pairs are the entries of a map, each once, in whatever order. -/
structure Enumerates (pairs : List (String × String)) (m : String → Option String) : Prop where
  /-- No name has two entries. -/
  nodup : (pairs.map Prod.fst).Nodup
  /-- The entries are those of the map. -/
  mem_iff : ∀ name value, (name, value) ∈ pairs ↔ m name = some value

theorem inOrder_iff {x y : String × String} : inOrder x y = true ↔ toLex x ≤ toLex y := by
  rw [inOrder, decide_eq_true_eq, Prod.Lex.toLex_le_toLex, not_lt]

theorem place_eq (x : String × String) (d : Details) :
    place x d = d.orderedInsert (fun x y => toLex x ≤ toLex y) x := by
  induction d with
  | nil => rfl
  | cons y d ih =>
    rw [place, List.orderedInsert_cons, ih]
    exact if_congr inOrder_iff rfl rfl

/-- Details are sorted by putting one after the other in its place. -/
theorem sort_eq_insertionSort (pairs : List (String × String)) :
    sort pairs = pairs.insertionSort fun x y => toLex x ≤ toLex y := by
  induction pairs with
  | nil => rfl
  | cons x pairs ih =>
    rw [List.insertionSort_cons, ← ih, ← place_eq]
    rfl

theorem Sorted.nodup (h : d.Sorted) : (d.map Prod.fst).Nodup :=
  List.pairwise_map.mpr (h.imp fun hlt => ne_of_lt hlt)

/-- A sorted list is an enumeration of its map. -/
theorem Sorted.enumerates (h : d.Sorted) : Enumerates d d.get? := by
  refine ⟨h.nodup, fun name value => ?_⟩
  induction d with
  | nil => exact iff_of_false List.not_mem_nil (fun hnone => nomatch hnone)
  | cons x d ih =>
    obtain ⟨n, v⟩ := x
    obtain ⟨hfirst, hrest⟩ := List.pairwise_cons.mp h
    rw [List.mem_cons, ih hrest, get?_cons, Prod.mk.injEq]
    by_cases hn : name = n
    · subst hn
      -- the name of the first entry does not come again
      have hnone : get? d name ≠ some value := fun hsome =>
        lt_irrefl name (hfirst _ ((ih hrest).mpr hsome))
      rw [if_pos rfl, Option.some.injEq]
      constructor
      · rintro (⟨-, rfl⟩ | hsome)
        · rfl
        · exact absurd hsome hnone
      · rintro rfl
        exact .inl ⟨rfl, rfl⟩
    · rw [if_neg hn]
      constructor
      · rintro (⟨heq, -⟩ | hsome)
        · exact absurd heq hn
        · exact hsome
      · exact .inr

/-- Two enumerations of one map differ in their order only. -/
theorem Enumerates.perm {pairs pairs' : List (String × String)} {m : String → Option String}
    (h : Enumerates pairs m) (h' : Enumerates pairs' m) : pairs.Perm pairs' := by
  rw [List.perm_ext_iff_of_nodup h.nodup.of_map h'.nodup.of_map]
  rintro ⟨name, value⟩
  rw [h.mem_iff, h'.mem_iff]

/-- In whatever order details are found, sorting them gives the same list. -/
theorem sort_eq_of_perm {pairs pairs' : List (String × String)} (h : pairs.Perm pairs') :
    sort pairs = sort pairs' := by
  rw [sort_eq_insertionSort, sort_eq_insertionSort]
  refine List.Perm.eq_of_pairwise (fun x y _ _ hxy hyx => ?_)
    (List.pairwise_insertionSort _ _) (List.pairwise_insertionSort _ _)
    ((List.perm_insertionSort _ _).trans (h.trans (List.perm_insertionSort _ _).symm))
  exact toLex.injective (le_antisymm hxy hyx)

theorem Sorted.sort_eq_self (h : d.Sorted) : sort d = d := by
  rw [sort_eq_insertionSort]
  exact List.Pairwise.insertionSort_eq
    (h.imp fun hlt => (Prod.Lex.toLex_lt_toLex.mpr (.inl hlt)).le)

/-- **Sorting the entries of a map**, in whatever order they are found, gives the sorted list
of the map. -/
theorem sort_eq {pairs : List (String × String)} (h : d.Sorted) (hpairs : Enumerates pairs d.get?) :
    sort pairs = d := by rw [sort_eq_of_perm (hpairs.perm h.enumerates), h.sort_eq_self]

/-- Sorted lists with the same values are the same. -/
theorem Sorted.ext (h : d.Sorted) (h' : d'.Sorted) (hget : ∀ name, d.get? name = d'.get? name) :
    d = d' := by
  have hpairs : Enumerates d d'.get? := funext hget ▸ h.enumerates
  rw [← sort_eq h' hpairs, sort_eq h h.enumerates]

end Details

end CwlCompliance
