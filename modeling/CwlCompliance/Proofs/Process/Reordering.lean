import CwlCompliance.Proofs.Process.Place
import Mathlib.Data.List.Perm.Basic
import Mathlib.Logic.Equiv.Basic

/-!
# Changing the order of processes

The processes at the top of a document may come in another order.  What is declared inside
one of them moves along with it.  A reference means the first process of a name, so what
runs what stays the same as long as no two processes at the top share a name.

## Main definitions

* `Reordered σ l l'` — `l'` holds what `l` holds, the element at each position `i` at the
  position `σ i`.
* `DistinctIds ps` — no two of the processes have the same local identifier.
* `Place.move σ` — where the process at a place is found in the other order.
* `MovedOccurrences σ ps ps' l l'` — two lists are of the same occurrences, in the order of
  either document.

## Main results

* `perm_iff_exists_reordered` — every other order of a list is a move of its positions.
* `Reordered.isFirst_iff` — what a name means after a change of order.
* `Reordered.runs_move` — what a process runs moves along with it.
* `Reordered.reaches_iff` — **reachability moves along.**
-/

namespace CwlCompliance

/-! ### Lists in another order -/

/-- `l'` holds what `l` holds, the element at each position `i` at the position `σ i`. -/
def Reordered {α : Type*} (σ : Equiv.Perm ℕ) (l l' : List α) : Prop := ∀ i, l'[σ i]? = l[i]?

namespace Reordered

variable {α β : Type*} {σ : Equiv.Perm ℕ} {l l' : List α}

theorem symm (h : Reordered σ l l') : Reordered σ.symm l' l := by
  intro i
  rw [← h, Equiv.apply_symm_apply]

theorem perm (h : Reordered σ l l') : l'.Perm l := by
  -- the elements with their new positions are the elements with their positions, moved
  have hnodup : ∀ l : List α, l.zipIdx.Nodup := by
    intro l
    refine List.Nodup.of_map Prod.snd ?_
    rw [List.zipIdx_map_snd]
    exact List.nodup_range'
  have hinjective : Function.Injective fun x : α × ℕ => (x.1, σ x.2) :=
    fun x y hxy => Prod.ext (Prod.mk.inj hxy).1 (σ.injective (Prod.mk.inj hxy).2)
  have hnumbered : l'.zipIdx.Perm (l.zipIdx.map fun x => (x.1, σ x.2)) := by
    rw [List.perm_ext_iff_of_nodup (hnodup l') ((hnodup l).map hinjective)]
    rintro ⟨a, j⟩
    rw [List.mem_zipIdx_iff_getElem?, List.mem_map]
    constructor
    · intro ha
      refine ⟨(a, σ.symm j), ?_, by simp⟩
      rw [List.mem_zipIdx_iff_getElem?, ← h, Equiv.apply_symm_apply]
      exact ha
    · rintro ⟨⟨_, i⟩, hx, ⟨⟩⟩
      rw [List.mem_zipIdx_iff_getElem?] at hx
      exact (h i).trans hx
  have hmap := hnumbered.map Prod.fst
  rw [List.map_map, List.zipIdx_map_fst] at hmap
  rwa [show (Prod.fst ∘ fun x : α × ℕ => (x.1, σ x.2)) = Prod.fst from rfl,
    List.zipIdx_map_fst] at hmap

theorem mem_iff (h : Reordered σ l l') {a : α} : a ∈ l' ↔ a ∈ l := h.perm.mem_iff

theorem swap (a b : α) (l : List α) : Reordered (Equiv.swap 0 1) (a :: b :: l) (b :: a :: l) := by
  intro i
  match i with
  | 0 => rw [Equiv.swap_apply_left]; rfl
  | 1 => rw [Equiv.swap_apply_right]; rfl
  | i + 2 =>
    rw [Equiv.swap_apply_of_ne_of_ne (by omega) (by omega)]
    rfl

/-- The first of those with a property that at most one has is found where it was moved. -/
theorem isFirst_iff {P : α → Prop} (h : Reordered σ l l')
    (hunique : ∀ (i j : ℕ) (a b : α), l[i]? = some a → l[j]? = some b → P a → P b → i = j) {i : ℕ} :
    IsFirst P l' (σ i) ↔ IsFirst P l i := by
  have hfound : ∀ {k : List α} {j : ℕ},
      (∀ (i j : ℕ) (a b : α), k[i]? = some a → k[j]? = some b → P a → P b → i = j) →
      (IsFirst P k j ↔ ∃ a, k[j]? = some a ∧ P a) := by
    intro k j hk
    refine ⟨fun hfirst => hfirst.1, fun ⟨a, ha, hPa⟩ => ⟨⟨a, ha, hPa⟩, fun m hm b hb hPb => ?_⟩⟩
    exact absurd (hk m j b a hb ha hPb hPa) (Nat.ne_of_lt hm)
  have hunique' : ∀ (i j : ℕ) (a b : α), l'[i]? = some a → l'[j]? = some b → P a → P b → i = j := by
    intro i j a b ha hb hPa hPb
    rw [← h.symm] at ha hb
    exact σ.symm.injective (hunique _ _ a b ha hb hPa hPb)
  rw [hfound hunique, hfound hunique', h]

end Reordered

/-- A permutation of the positions from the second on. -/
def shifted (σ : Equiv.Perm ℕ) : Equiv.Perm ℕ where
  toFun
    | 0 => 0
    | i + 1 => σ i + 1
  invFun
    | 0 => 0
    | i + 1 => σ.symm i + 1
  left_inv i := by cases i <;> simp
  right_inv i := by cases i <;> simp

/-- Every other order of a list is a move of its positions. -/
theorem perm_iff_exists_reordered {α : Type*} {l l' : List α} :
    l'.Perm l ↔ ∃ σ, Reordered σ l l' := by
  constructor
  · intro h
    induction h with
    | nil => exact ⟨.refl ℕ, fun i => rfl⟩
    | cons a _ ih =>
      obtain ⟨σ, hσ⟩ := ih
      refine ⟨shifted σ, fun i => ?_⟩
      cases i with
      | zero => rfl
      | succ i => exact hσ i
    | swap a b l => exact ⟨_, .swap a b l⟩
    | trans _ _ ih ih' =>
      obtain ⟨τ, hτ⟩ := ih
      obtain ⟨σ, hσ⟩ := ih'
      exact ⟨σ.trans τ, fun i => (hτ (σ i)).trans (hσ i)⟩
  · rintro ⟨σ, hσ⟩
    exact hσ.perm

/-! ### Names -/

/-- No two of the processes that have an identifier have the same local one. -/
def DistinctIds (ps : List CwlProcess) : Prop := (ps.filterMap CwlProcess.localId).Nodup

instance (ps : List CwlProcess) : Decidable (DistinctIds ps) :=
  inferInstanceAs (Decidable (ps.filterMap CwlProcess.localId).Nodup)

theorem DistinctIds.unique {ps : List CwlProcess} (h : DistinctIds ps) {i j : ℕ}
    {p q : CwlProcess} {name : String} (hp : ps[i]? = some p) (hq : ps[j]? = some q)
    (hpName : p.localId = some name) (hqName : q.localId = some name) : i = j := by
  have hpairwise := List.pairwise_iff_getElem.mp (List.pairwise_filterMap.mp h)
  obtain ⟨hi, rfl⟩ := List.getElem?_eq_some_iff.mp hp
  obtain ⟨hj, rfl⟩ := List.getElem?_eq_some_iff.mp hq
  rcases Nat.lt_trichotomy i j with hlt | heq | hlt
  · exact absurd rfl (hpairwise i j hi hj hlt name hpName name hqName)
  · exact heq
  · exact absurd rfl (hpairwise j i hj hi hlt name hqName name hpName)

/-! ### Places -/

/-- Where the process at a place is found when those at the top are moved. -/
def Place.move (σ : Equiv.Perm ℕ) : Place → Place
  | [] => []
  | i :: path => σ i :: path

theorem Place.move_snoc {σ : Equiv.Perm ℕ} {a : Place} (ha : a ≠ []) (i : ℕ) :
    Place.move σ (a ++ [i]) = Place.move σ a ++ [i] := by
  cases a with
  | nil => exact absurd rfl ha
  | cons j path => rfl

theorem Place.move_symm_move (σ : Equiv.Perm ℕ) (a : Place) :
    Place.move σ.symm (Place.move σ a) = a := by
  cases a with
  | nil => rfl
  | cons i path => rw [move, move, Equiv.symm_apply_apply]

theorem Place.move_move_symm (σ : Equiv.Perm ℕ) (a : Place) :
    Place.move σ (Place.move σ.symm a) = a := move_symm_move σ.symm a

theorem Place.move_injective (σ : Equiv.Perm ℕ) : Function.Injective (Place.move σ) := by
  intro a b hab
  rw [← move_symm_move σ a, hab, move_symm_move]

section Processes

variable {σ : Equiv.Perm ℕ} {ps ps' : List CwlProcess} {a b : Place}

/-- What is declared inside a process moves along with it. -/
theorem Reordered.processAt_move (h : Reordered σ ps ps') (a : Place) :
    processAt ps' (a.move σ) = processAt ps a := by
  cases a with
  | nil => rfl
  | cons i path => rw [Place.move, processAt_cons, processAt_cons, h]

theorem Reordered.distinctIds (h : Reordered σ ps ps') (hids : DistinctIds ps) :
    DistinctIds ps' :=
  (h.perm.filterMap _).nodup_iff.mpr hids

/-! ### Reachability -/

/-- **A step**: what a process runs moves along with it. -/
theorem Reordered.runs_move (h : Reordered σ ps ps') (hids : DistinctIds ps)
    (hrun : Runs ps a b) : Runs ps' (a.move σ) (b.move σ) := by
  cases hrun with
  | inline stands step run =>
    rw [Place.move_snoc (ne_nil_of_processAt stands)]
    exact .inline ((h.processAt_move a).trans stands) step run
  | reference stands step run first =>
    refine .reference ((h.processAt_move a).trans stands) step run ?_
    exact (h.isFirst_iff fun i j p q hp hq => hids.unique hp hq).mpr first

theorem Reordered.reaches_move (h : Reordered σ ps ps') (hids : DistinctIds ps)
    (hreach : Reaches ps a b) : Reaches ps' (a.move σ) (b.move σ) :=
  hreach.lift (Place.move σ) fun _ _ hrun => h.runs_move hids hrun

/-- **Reachability moves along.** -/
theorem Reordered.reaches_iff (h : Reordered σ ps ps') (hids : DistinctIds ps) :
    Reaches ps' (a.move σ) (b.move σ) ↔ Reaches ps a b := by
  constructor
  · intro hreach
    have hback := h.symm.reaches_move (h.distinctIds hids) hreach
    rwa [Place.move_symm_move, Place.move_symm_move] at hback
  · exact h.reaches_move hids

/-! ### Occurrences -/

/-- `l` and `l'` are of the same occurrences in two documents, each listed in the order of
its own document. -/
def MovedOccurrences (σ : Equiv.Perm ℕ) (ps ps' l l' : List CwlProcess) : Prop :=
  ∃ places places' : List Place, places.Pairwise (· < ·) ∧ places'.Pairwise (· < ·) ∧
    places'.Perm (places.map (Place.move σ)) ∧
    places.map (processAt ps) = l.map some ∧ places'.map (processAt ps') = l'.map some

/-- Lists of what has a property that moves along are of the same occurrences. -/
theorem Reordered.movedOccurrences (h : Reordered σ ps ps') {l l' : List CwlProcess}
    {P P' : Place → CwlProcess → Prop} (hl : Listed ps P l) (hl' : Listed ps' P' l')
    (hP : ∀ a q, processAt ps a = some q → (P' (a.move σ) q ↔ P a q)) :
    MovedOccurrences σ ps ps' l l' := by
  obtain ⟨places, hsorted, hmem, hmap⟩ := hl
  obtain ⟨places', hsorted', hmem', hmap'⟩ := hl'
  refine ⟨places, places', hsorted, hsorted', ?_, hmap, hmap'⟩
  have hnodup : ∀ {l : List Place}, l.Pairwise (· < ·) → l.Nodup :=
    fun hl => hl.imp fun hab => ne_of_lt hab
  rw [List.perm_ext_iff_of_nodup (hnodup hsorted')
    ((hnodup hsorted).map (Place.move_injective σ))]
  intro a
  rw [hmem', List.mem_map]
  constructor
  · rintro ⟨q, hq, hPq⟩
    rw [← Place.move_move_symm σ a] at hq hPq
    rw [h.processAt_move] at hq
    exact ⟨a.move σ.symm, (hmem _).mpr ⟨q, hq, (hP _ q hq).mp hPq⟩, Place.move_move_symm σ a⟩
  · rintro ⟨b, hb, rfl⟩
    obtain ⟨q, hq, hPq⟩ := (hmem b).mp hb
    exact ⟨q, (h.processAt_move b).trans hq, (hP b q hq).mpr hPq⟩

/-- Lists of the same occurrences hold the same processes. -/
theorem MovedOccurrences.perm (h : Reordered σ ps ps') {l l' : List CwlProcess}
    (hl : MovedOccurrences σ ps ps' l l') : l'.Perm l := by
  obtain ⟨places, places', -, -, hplaces, hmap, hmap'⟩ := hl
  have hsome : (l'.map some).Perm (l.map some) := by
    rw [← hmap, ← hmap']
    refine (hplaces.map _).trans (.of_eq ?_)
    rw [List.map_map]
    exact List.map_congr_left fun a _ => h.processAt_move a
  exact (List.map_perm_map_iff (Option.some_injective _)).mp hsome

end Processes

end CwlCompliance
