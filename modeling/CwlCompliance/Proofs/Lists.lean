import Mathlib.Data.List.Basic
import Mathlib.Data.List.Forall2
import Mathlib.Data.List.Nodup

/-!
# Lists that are gone through in order

What a list is gone through for: its elements with their numbers, those that are new,
the first element that is bad, and the results of a reading that may fail at any element.

## Main definitions

* `appendNew l a` — `l` with `a` at its end unless `l` has it already.
* `OneMore a l l'` — `l'` is `l` with one more element somewhere in it.
* `FirstBad P F l` — some element of `l` has `F`, and those before it have `P`.

## Main results

* `forall_mem_zipIdx_fst` — numbering the elements of a list keeps them.
* `sublist_flatMap_zipIdx`, `perm_flatMap_zipIdx`, `sublist_flatMap_of_forall₂` — what the
  elements of a sublist, of the list in another order, or of one with less in them make.
* `foldl_appendNew` — adding one element after the other keeps the first of each.
* `perm_flatMap_filter`, `filter_flatMap_of_mem` — the elements of a list, sorted by a key,
  are those of the list, and what was sorted is found again.
* `oneMore_filter`, `oneMore_flatMap`, `oneMore_flatMap_zipIdx` — what has one element more.
* `Reading.mapM_eq_ok`, `Reading.mapM_eq_error` — what comes of reading a list.
* `Reading.exists_passes_eq_ok` — what comes of reading a list in two passes.
-/

namespace CwlCompliance

/-! ### Numbered elements -/

/-- Numbering the elements of a list keeps them. -/
theorem forall_mem_zipIdx_fst {α : Type*} {P : α → Prop} {l : List α} {n : ℕ} :
    (∀ x ∈ l.zipIdx n, P x.1) ↔ ∀ a ∈ l, P a := by
  conv_rhs => rw [← List.zipIdx_map_fst n l]
  exact List.forall_mem_map.symm

/-- Elements that are related whatever their numbers are related with their numbers. -/
theorem forall₂_zipIdx_left {α β : Type*} {R : α × ℕ → β → Prop} {l : List α} {l' : List β}
    {n : ℕ} (h : List.Forall₂ (fun a b => ∀ k, R (a, k) b) l l') :
    List.Forall₂ R (l.zipIdx n) l' := by
  rw [← List.zipIdx_map_fst n l, List.forall₂_map_left_iff] at h
  exact h.imp fun x _ hx => hx x.2

/-- The same when the related elements have the same number. -/
theorem forall₂_zipIdx {α β : Type*} {R : α × ℕ → β × ℕ → Prop} {l : List α} {l' : List β}
    (h : List.Forall₂ (fun a b => ∀ k, R (a, k) (b, k)) l l') : ∀ n,
    List.Forall₂ R (l.zipIdx n) (l'.zipIdx n) := by
  induction h with
  | nil => exact fun _ => .nil
  | cons hab _ ih =>
    intro n
    rw [List.zipIdx_cons, List.zipIdx_cons]
    exact .cons (hab n) (ih (n + 1))

/-- Fewer elements make less, in the same order, if what they make does not depend on their
numbers. -/
theorem sublist_flatMap_zipIdx {α β : Type*} {g : α × ℕ → List β} {l' l : List α}
    (h : l'.Sublist l) (hg : ∀ a ∈ l', ∀ m n, g (a, m) = g (a, n)) : ∀ m n,
    ((l'.zipIdx m).flatMap g).Sublist ((l.zipIdx n).flatMap g) := by
  induction h with
  | slnil => exact fun _ _ => .refl []
  | cons a _ ih =>
    intro m n
    rw [List.zipIdx_cons, List.flatMap_cons]
    exact (ih hg m (n + 1)).trans (List.sublist_append_right _ _)
  | cons_cons a _ ih =>
    rw [List.forall_mem_cons] at hg
    intro m n
    rw [List.zipIdx_cons, List.zipIdx_cons, List.flatMap_cons, List.flatMap_cons, hg.1 m n]
    exact (ih hg.2 (m + 1) (n + 1)).append_left _

/-- What elements make does not depend on their order either, but for the order, if it does
not depend on their numbers. -/
theorem perm_flatMap_zipIdx {α β : Type*} {g : α × ℕ → List β} {l' l : List α} (h : l'.Perm l)
    (hg : ∀ a ∈ l, ∀ m n, g (a, m) = g (a, n)) (n : ℕ) :
    ((l'.zipIdx n).flatMap g).Perm ((l.zipIdx n).flatMap g) := by
  have hunnumbered : ∀ {k : List α}, (∀ a ∈ k, ∀ m n, g (a, m) = g (a, n)) →
      (k.zipIdx n).flatMap g = k.flatMap fun a => g (a, n) := by
    intro k hk
    have hnumber : ∀ x ∈ k.zipIdx n, g x = g (x.1, n) := by
      intro x hx
      refine hk x.1 ?_ x.2 n
      rw [← List.zipIdx_map_fst n k]
      exact List.mem_map_of_mem hx
    calc
      (k.zipIdx n).flatMap g = (k.zipIdx n).flatMap fun x => g (x.1, n) :=
        List.flatMap_congr hnumber
      _ = ((k.zipIdx n).map Prod.fst).flatMap fun a => g (a, n) := by rw [List.flatMap_map]
      _ = k.flatMap fun a => g (a, n) := by rw [List.zipIdx_map_fst]
  rw [hunnumbered hg, hunnumbered fun a ha => hg a (h.mem_iff.mp ha)]
  exact h.flatMap_right _

theorem map_filter_eq_flatMap {α β : Type*} (P : α → Bool) (f : α → β) (l : List α) :
    (l.filter P).map f = l.flatMap fun a => if P a then [f a] else [] := by
  induction l with
  | nil => rfl
  | cons a l ih =>
    rw [List.filter_cons, List.flatMap_cons, ← ih]
    cases P a <;> rfl

/-- What the first element gives counts only if no later one gives anything. -/
theorem getLast?_filterMap_cons {α β : Type*} (g : α → Option β) (a : α) (l : List α) :
    ((a :: l).filterMap g).getLast? = ((l.filterMap g).getLast?).or (g a) := by
  cases h : g a with
  | none => rw [List.filterMap_cons_none h, Option.or_none]
  | some b =>
    rw [List.filterMap_cons_some h, List.getLast?_cons]
    cases (l.filterMap g).getLast? <;> rfl

theorem findSome?_congr {α β : Type*} {f g : α → Option β} {l : List α}
    (h : ∀ a ∈ l, f a = g a) : l.findSome? f = l.findSome? g := by
  induction l with
  | nil => rfl
  | cons a l ih =>
    rw [List.forall_mem_cons] at h
    rw [List.findSome?_cons, List.findSome?_cons, h.1, ih h.2]

/-- Related elements are related as elements of their lists. -/
theorem forall₂_mem_left {α β : Type*} {R : α → β → Prop} {l : List α} {l' : List β}
    (h : List.Forall₂ R l l') : List.Forall₂ (fun a b => a ∈ l ∧ R a b) l l' :=
  (List.forall₂_and_left l l').mpr ⟨fun _ ha => ha, h⟩

/-- Related lists have related elements at the same positions. -/
theorem exists_getElem?_of_forall₂ {α β : Type*} {R : α → β → Prop} {l : List α} {l' : List β}
    (h : List.Forall₂ R l l') {i : ℕ} {b : β} (hb : l'[i]? = some b) :
    ∃ a, l[i]? = some a ∧ R a b := by
  induction h generalizing i with
  | nil => exact nomatch hb
  | cons hab _ ih =>
    cases i with
    | zero =>
      obtain rfl := Option.some.inj hb
      exact ⟨_, rfl, hab⟩
    | succ i => exact ih hb

/-- Elements that make less, one by one, make less together. -/
theorem sublist_flatMap_of_forall₂ {α β γ : Type*} {f : α → List γ} {g : β → List γ} {l : List α}
    {l' : List β} (h : List.Forall₂ (fun a b => (g b).Sublist (f a)) l l') :
    (l'.flatMap g).Sublist (l.flatMap f) := by
  induction h with
  | nil => exact .refl _
  | cons hab _ ih =>
    rw [List.flatMap_cons, List.flatMap_cons]
    exact hab.append ih

/-- No element of a list is one that the list does not have. -/
theorem decide_ne_of_not_mem {α : Type*} [DecidableEq α] {l : List α} {b : α} (h : b ∉ l) :
    ∀ a ∈ l, decide (a ≠ b) = true := by
  intro a ha
  rw [decide_eq_true_eq]
  rintro rfl
  exact h ha

/-- The elements with a property that a list starts with, and what follows them. -/
theorem takeWhile_dropWhile_append {α : Type*} {P : α → Bool} {l rest : List α}
    (hl : ∀ a ∈ l, P a = true) (hrest : ∀ a as, rest = a :: as → P a = false) :
    (l ++ rest).takeWhile P = l ∧ (l ++ rest).dropWhile P = rest := by
  rw [List.takeWhile_append_of_pos hl, List.dropWhile_append_of_pos hl]
  cases rest with
  | nil => simp
  | cons a as => simp [hrest a as rfl]

/-! ### Elements that are new -/

section New

variable {α β : Type*} [BEq α] [LawfulBEq α] {l : List α} {a b : α}

/-- A list with an element at its end unless the list has it already. -/
def appendNew (l : List α) (a : α) : List α := if l.contains a then l else l ++ [a]

omit [LawfulBEq α] in
@[simp] theorem appendNew_nil (a : α) : appendNew [] a = [a] := rfl

@[simp] theorem appendNew_cons_self (a : α) (l : List α) : appendNew (a :: l) a = a :: l := by
  simp [appendNew]

theorem appendNew_cons_of_ne (h : a ≠ b) : appendNew (a :: l) b = a :: appendNew l b := by
  rw [appendNew, appendNew, List.contains_cons, beq_false_of_ne h.symm, Bool.false_or]
  split <;> rfl

theorem mem_appendNew : b ∈ appendNew l a ↔ b ∈ l ∨ b = a := by
  rw [appendNew]
  split
  · next h =>
    rw [List.contains_iff_mem] at h
    constructor
    · exact Or.inl
    · rintro (hb | rfl)
      · exact hb
      · exact h
  · rw [List.mem_append, List.mem_singleton]

theorem nodup_appendNew (h : l.Nodup) : (appendNew l a).Nodup := by
  rw [appendNew]
  split
  · exact h
  · next ha =>
    rw [List.contains_iff_mem] at ha
    rw [List.nodup_append]
    refine ⟨h, List.nodup_singleton a, ?_⟩
    rintro b hb c hc rfl
    rw [List.mem_singleton] at hc
    exact ha (hc ▸ hb)

/-- **Elements added one after the other** come in the order in which they first occur,
after those that were there. -/
theorem foldl_appendNew (l init : List α) :
    l.foldl appendNew init = init ++ (l.filter fun a => !init.contains a).eraseDups := by
  induction l generalizing init with
  | nil => simp
  | cons a l ih =>
    rw [List.foldl_cons, ih]
    cases ha : init.contains a with
    | true => rw [appendNew, if_pos ha, List.filter_cons_of_neg (by rw [ha]; decide)]
    | false =>
      have hfilter : (l.filter fun b => !(init ++ [a]).contains b) =
          (l.filter fun b => !init.contains b).filter fun b => !b == a := by
        rw [List.filter_filter]
        refine List.filter_congr fun b _ => ?_
        rw [List.contains_append, List.contains_cons, List.contains_nil, Bool.or_false,
          Bool.not_or, Bool.and_comm]
      rw [appendNew, if_neg (by rw [ha]; decide), List.filter_cons_of_pos (by rw [ha]; decide),
        List.eraseDups_cons, hfilter, List.append_assoc, List.singleton_append]

theorem nodup_foldl_appendNew {init : List α} (h : init.Nodup) (l : List α) :
    (l.foldl appendNew init).Nodup := by
  induction l generalizing init with
  | nil => exact h
  | cons a l ih => exact ih (nodup_appendNew h)

theorem foldl_appendNew_nil (l : List α) : l.foldl appendNew [] = l.eraseDups := by
  rw [foldl_appendNew, List.nil_append]
  congr 1
  exact List.filter_eq_self.mpr fun a _ => rfl

theorem nodup_eraseDups (l : List α) : l.eraseDups.Nodup := by
  rw [← foldl_appendNew_nil]
  exact nodup_foldl_appendNew List.nodup_nil l

theorem eraseDups_eq_self (h : l.Nodup) : l.eraseDups = l := by
  induction l with
  | nil => rfl
  | cons a l ih =>
    rw [List.nodup_cons] at h
    have hfilter : (l.filter fun b => !b == a) = l := by
      refine List.filter_eq_self.mpr fun b hb => ?_
      have hne : b ≠ a := fun hba => h.1 (hba ▸ hb)
      simp [hne]
    rw [List.eraseDups_cons, hfilter, ih h.2]

/-- **Sorting by a key loses nothing**: the elements under each of some keys, one key after
the other, are all elements, if every element has one of the keys. -/
theorem perm_flatMap_filter {γ : Type*} [DecidableEq γ] {g : β → γ} {keys : List γ}
    (hkeys : keys.Nodup) {l : List β} (h : ∀ b ∈ l, g b ∈ keys) :
    (keys.flatMap fun k => l.filter fun b => g b = k).Perm l := by
  induction keys generalizing l with
  | nil =>
    rw [List.eq_nil_iff_forall_not_mem.mpr fun b hb => List.not_mem_nil (h b hb)]
    exact List.Perm.refl _
  | cons k keys ih =>
    rw [List.nodup_cons] at hkeys
    -- what is under the other keys is what is not under the first one
    have hrest : (keys.flatMap fun k' => l.filter fun b => g b = k') =
        keys.flatMap fun k' => (l.filter fun b => !decide (g b = k)).filter fun b => g b = k' := by
      refine List.flatMap_congr fun k' hk' => ?_
      rw [List.filter_filter]
      refine List.filter_congr fun b _ => ?_
      have hne : k' ≠ k := fun hkk => hkeys.1 (hkk ▸ hk')
      by_cases hb : g b = k' <;> simp [hb, hne]
    have hperm : (keys.flatMap fun k' => l.filter fun b => g b = k').Perm
        (l.filter fun b => !decide (g b = k)) := by
      rw [hrest]
      refine ih hkeys.2 fun b hb => ?_
      obtain ⟨hbl, hbk⟩ := List.mem_filter.mp hb
      exact (List.mem_cons.mp (h b hbl)).resolve_left (by simpa using hbk)
    rw [List.flatMap_cons]
    exact (hperm.append_left _).trans (List.filter_append_perm _ l)

/-- What is sorted by a key already is found again under its key. -/
theorem filter_flatMap_of_mem {γ : Type*} [DecidableEq γ] {f : γ → List β} {g : β → γ}
    {keys : List γ} (hkeys : keys.Nodup) (hf : ∀ k, ∀ b ∈ f k, g b = k) {k : γ} (hk : k ∈ keys) :
    (keys.flatMap f).filter (fun b => g b = k) = f k := by
  have hkey : ∀ k', (f k').filter (fun b => g b = k) = if k' = k then f k' else [] := by
    intro k'
    split
    · next h => exact List.filter_eq_self.mpr fun b hb => by simp [hf k' b hb, h]
    · next h => exact List.filter_eq_nil_iff.mpr fun b hb => by simp [hf k' b hb, h]
  rw [List.filter_flatMap, List.flatMap_congr fun k' _ => hkey k']
  induction keys with
  | nil => exact absurd hk List.not_mem_nil
  | cons k' keys ih =>
    rw [List.nodup_cons] at hkeys
    rw [List.flatMap_cons]
    rcases List.mem_cons.mp hk with rfl | hk
    · have hrest : (keys.flatMap fun k' => if k' = k then f k' else []) = [] := by
        refine List.flatMap_eq_nil_iff.mpr fun k' hk' => if_neg ?_
        rintro rfl
        exact hkeys.1 hk'
      rw [if_pos rfl, hrest, List.append_nil]
    · have hne : k' ≠ k := fun h => hkeys.1 (h ▸ hk)
      rw [if_neg hne, List.nil_append]
      exact ih hkeys.2 hk

/-- Where no two elements have the same key, an element is found alone under its key. -/
theorem filter_eq_singleton {γ : Type*} [DecidableEq γ] {g : β → γ} {l : List β} {b : β}
    (h : (l.map g).Nodup) (hb : b ∈ l) : l.filter (fun b' => g b' = g b) = [b] := by
  induction l with
  | nil => exact absurd hb List.not_mem_nil
  | cons c l ih =>
    rw [List.map_cons, List.nodup_cons] at h
    rcases List.mem_cons.mp hb with rfl | hb
    · have hrest : l.filter (fun b' => g b' = g b) = [] := by
        refine List.filter_eq_nil_iff.mpr fun b' hb' => ?_
        rw [decide_eq_true_eq]
        exact fun hkey => h.1 (hkey ▸ List.mem_map_of_mem hb')
      rw [List.filter_cons_of_pos (by simp), hrest]
    · have hne : g c ≠ g b := fun hkey => h.1 (hkey ▸ List.mem_map_of_mem hb)
      rw [List.filter_cons_of_neg (by simpa using hne), ih h.2 hb]

end New

/-! ### One element more -/

/-- A list with one more element somewhere in it, all others staying in their order. -/
def OneMore {α : Type*} (a : α) (l l' : List α) : Prop :=
  ∃ before after, l = before ++ after ∧ l' = before ++ a :: after

section OneMore

variable {α β : Type*} {a : α} {l l' : List α}

theorem OneMore.append_left (h : OneMore a l l') (k : List α) : OneMore a (k ++ l) (k ++ l') := by
  obtain ⟨before, after, rfl, rfl⟩ := h
  exact ⟨k ++ before, after, by simp, by simp⟩

theorem OneMore.append_right (h : OneMore a l l') (k : List α) : OneMore a (l ++ k) (l' ++ k) := by
  obtain ⟨before, after, rfl, rfl⟩ := h
  exact ⟨before, after ++ k, by simp, by simp⟩

theorem OneMore.map (h : OneMore a l l') (f : α → β) : OneMore (f a) (l.map f) (l'.map f) := by
  obtain ⟨before, after, rfl, rfl⟩ := h
  exact ⟨before.map f, after.map f, by simp, by simp⟩

/-- A test that one more element passes picks this one more. -/
theorem oneMore_filter {P P' : α → Bool} (hl : l.Nodup) (ha : a ∈ l) (hP : P a = false)
    (hP' : P' a = true) (hother : ∀ b ≠ a, P' b = P b) : OneMore a (l.filter P) (l.filter P') := by
  obtain ⟨before, after, rfl⟩ := List.append_of_mem ha
  rw [List.nodup_middle, List.nodup_cons, List.mem_append, not_or] at hl
  have hsame : ∀ k : List α, a ∉ k → k.filter P' = k.filter P := fun k hk =>
    List.filter_congr fun b hb => hother b fun hba => hk (hba ▸ hb)
  refine ⟨before.filter P, after.filter P, ?_, ?_⟩
  · rw [List.filter_append, List.filter_cons_of_neg (by simp [hP])]
  · rw [List.filter_append, List.filter_cons_of_pos hP', hsame _ hl.1.1, hsame _ hl.1.2]

/-- Where one key makes one more and the others make the same, all make one more. -/
theorem oneMore_flatMap {keys : List β} {f f' : β → List α} {k : β} (hkeys : keys.Nodup)
    (hk : k ∈ keys) (h : OneMore a (f k) (f' k)) (hother : ∀ k' ≠ k, f' k' = f k') :
    OneMore a (keys.flatMap f) (keys.flatMap f') := by
  obtain ⟨before, after, rfl⟩ := List.append_of_mem hk
  rw [List.nodup_middle, List.nodup_cons, List.mem_append, not_or] at hkeys
  have hsame : ∀ l : List β, k ∉ l → l.flatMap f' = l.flatMap f := fun l hl =>
    List.flatMap_congr fun b hb => hother b fun hbk => hl (hbk ▸ hb)
  rw [List.flatMap_append, List.flatMap_append, List.flatMap_cons, List.flatMap_cons,
    hsame _ hkeys.1.1, hsame _ hkeys.1.2]
  exact (h.append_right _).append_left _

/-- Elements that make the same whatever their numbers are make the same with their numbers. -/
theorem flatMap_zipIdx_congr {γ : Type*} {f : α × ℕ → List γ} {g : β × ℕ → List γ}
    {k : List α} {k' : List β} (h : List.Forall₂ (fun b c => ∀ n, g (c, n) = f (b, n)) k k')
    (n : ℕ) : (k'.zipIdx n).flatMap g = (k.zipIdx n).flatMap f := by
  have hnumbered := forall₂_zipIdx (R := fun x y => g y = f x) h n
  generalize k.zipIdx n = x, k'.zipIdx n = y at hnumbered
  induction hnumbered with
  | nil => rfl
  | cons hxy _ ih => rw [List.flatMap_cons, List.flatMap_cons, hxy, ih]

/-- Where one of several numbered elements makes one more, all make one more. -/
theorem oneMore_flatMap_zipIdx {f g : β × ℕ → List α} {before before' after after' : List β}
    {b b' : β} {n : ℕ}
    (hbefore : List.Forall₂ (fun c c' => ∀ k, g (c', k) = f (c, k)) before before')
    (hafter : List.Forall₂ (fun c c' => ∀ k, g (c', k) = f (c, k)) after after')
    (h : OneMore a (f (b, n + before.length)) (g (b', n + before.length))) :
    OneMore a (((before ++ b :: after).zipIdx n).flatMap f)
      (((before' ++ b' :: after').zipIdx n).flatMap g) := by
  rw [List.zipIdx_append, List.zipIdx_append, List.zipIdx_cons, List.zipIdx_cons,
    List.flatMap_append, List.flatMap_append, List.flatMap_cons, List.flatMap_cons,
    ← hbefore.length_eq, flatMap_zipIdx_congr hbefore, flatMap_zipIdx_congr hafter]
  exact (h.append_right _).append_left _

end OneMore

/-! ### The first that is bad -/

/-- Some element has `F`, and those before it have `P`. -/
def FirstBad {α : Type} (P F : α → Prop) (l : List α) : Prop :=
  ∃ before a after, l = before ++ a :: after ∧ (∀ b ∈ before, P b) ∧ F a

section FirstBad

variable {α β : Type} {P F : α → Prop}

theorem firstBad_nil : ¬FirstBad P F [] := by
  rintro ⟨before, a, after, h, -⟩
  simp at h

theorem firstBad_cons {a : α} {l : List α} :
    FirstBad P F (a :: l) ↔ F a ∨ P a ∧ FirstBad P F l := by
  constructor
  · rintro ⟨before, a', after, hl, hbefore, ha'⟩
    cases before with
    | nil =>
      obtain ⟨rfl, rfl⟩ := List.cons_eq_cons.mp hl
      exact .inl ha'
    | cons b before =>
      obtain ⟨rfl, rfl⟩ := List.cons_eq_cons.mp hl
      rw [List.forall_mem_cons] at hbefore
      exact .inr ⟨hbefore.1, before, a', after, rfl, hbefore.2, ha'⟩
  · rintro (ha | ⟨ha, before, a', after, rfl, hbefore, ha'⟩)
    · exact ⟨[], a, l, rfl, by simp, ha⟩
    · refine ⟨a :: before, a', after, rfl, ?_, ha'⟩
      rw [List.forall_mem_cons]
      exact ⟨ha, hbefore⟩

theorem firstBad_map {g : β → α} {l : List β} :
    FirstBad (fun b => P (g b)) (fun b => F (g b)) l ↔ FirstBad P F (l.map g) := by
  induction l with
  | nil => exact iff_of_false firstBad_nil firstBad_nil
  | cons b l ih => rw [List.map_cons, firstBad_cons, firstBad_cons, ih]

theorem firstBad_false {l : List α} : ¬FirstBad P (fun _ => False) l := by
  rintro ⟨_, _, _, _, _, h⟩
  exact h

end FirstBad

/-! ### Readings -/

namespace Reading

variable {ε α β : Type} {x : Except ε α} {f : α → Except ε β} {l : List α} {e : ε}

theorem bind_eq_ok {b : β} : x >>= f = .ok b ↔ ∃ a, x = .ok a ∧ f a = .ok b := by
  cases x with
  | error e => exact iff_of_false (fun h => nomatch h) fun ⟨_, h, _⟩ => nomatch h
  | ok a =>
    constructor
    · intro h
      exact ⟨a, rfl, h⟩
    · rintro ⟨_, ⟨⟩, h⟩
      exact h

theorem bind_eq_error : x >>= f = .error e ↔ x = .error e ∨ ∃ a, x = .ok a ∧ f a = .error e := by
  cases x with
  | error e' =>
    constructor
    · rintro ⟨⟩
      exact .inl rfl
    · rintro (⟨⟨⟩⟩ | ⟨_, h, _⟩)
      · rfl
      · exact nomatch h
  | ok a =>
    constructor
    · intro h
      exact .inr ⟨a, rfl, h⟩
    · rintro (h | ⟨_, ⟨⟩, h⟩)
      · exact nomatch h
      · exact h

theorem map_eq_ok {g : α → β} {b : β} : g <$> x = .ok b ↔ ∃ a, x = .ok a ∧ g a = b := by
  cases x with
  | error e => exact iff_of_false (fun h => nomatch h) fun ⟨_, h, _⟩ => nomatch h
  | ok a =>
    constructor
    · rintro ⟨⟩
      exact ⟨a, rfl, rfl⟩
    · rintro ⟨_, ⟨⟩, rfl⟩
      rfl

theorem mapError_eq_ok {ε' : Type} {g : ε → ε'} {a : α} : x.mapError g = .ok a ↔ x = .ok a := by
  cases x <;> simp [Except.mapError]

theorem toOption_eq_some {a : α} : x.toOption = some a ↔ x = .ok a := by
  cases x <;> simp [Except.toOption]

/-- Reading a list succeeds when reading each element does. -/
theorem mapM_eq_ok {bs : List β} :
    l.mapM f = .ok bs ↔ List.Forall₂ (fun a b => f a = .ok b) l bs := by
  induction l generalizing bs with
  | nil =>
    rw [List.mapM_nil, List.forall₂_nil_left_iff]
    exact ⟨fun h => by cases h; rfl, fun h => by rw [h]; rfl⟩
  | cons a l ih =>
    rw [List.mapM_cons, bind_eq_ok]
    simp only [bind_eq_ok, ih, List.forall₂_cons_left_iff]
    constructor
    · rintro ⟨b, hb, bs', hbs', ⟨⟩⟩
      exact ⟨b, bs', hb, hbs', rfl⟩
    · rintro ⟨b, bs', hb, hbs', rfl⟩
      exact ⟨b, hb, bs', hbs', rfl⟩

/-- Reading a list fails with the first element that cannot be read. -/
theorem mapM_eq_error : l.mapM f = .error e ↔
    ∃ before a after, l = before ++ a :: after ∧ (∀ b ∈ before, ∃ c, f b = .ok c) ∧
      f a = .error e := by
  induction l with
  | nil => exact iff_of_false (fun h => nomatch h) (by simp)
  | cons a l ih =>
    rw [List.mapM_cons, bind_eq_error]
    constructor
    · rintro (h | ⟨b, hb, h⟩)
      · exact ⟨[], a, l, rfl, by simp, h⟩
      -- the first element is read, so one of the rest is the first that is not
      · rw [bind_eq_error, ih] at h
        rcases h with ⟨before, a', after, rfl, hbefore, ha'⟩ | ⟨_, _, h⟩
        · refine ⟨a :: before, a', after, rfl, ?_, ha'⟩
          rw [List.forall_mem_cons]
          exact ⟨⟨b, hb⟩, hbefore⟩
        · exact nomatch h
    · rintro ⟨before, a', after, hl, hbefore, ha'⟩
      cases before with
      | nil =>
        obtain ⟨rfl, rfl⟩ := List.cons_eq_cons.mp hl
        exact .inl ha'
      | cons b before =>
        obtain ⟨rfl, rfl⟩ := List.cons_eq_cons.mp hl
        rw [List.forall_mem_cons] at hbefore
        obtain ⟨⟨c, hc⟩, hbefore⟩ := hbefore
        refine .inr ⟨c, hc, ?_⟩
        rw [bind_eq_error]
        exact .inl (ih.mpr ⟨before, a', after, rfl, hbefore, ha'⟩)

/-- Lists whose elements are read alike are read alike. -/
theorem mapM_congr {γ : Type} {l' : List γ} {g : γ → Except ε β}
    (h : List.Forall₂ (fun a c => f a = g c) l l') : l.mapM f = l'.mapM g := by
  induction h with
  | nil => rfl
  | cons hac _ ih => rw [List.mapM_cons, List.mapM_cons, hac, ih]

theorem exists_of_mem_of_mapM {bs : List β} {a : α} (h : l.mapM f = .ok bs) (ha : a ∈ l) :
    ∃ b ∈ bs, f a = .ok b := by
  rw [mapM_eq_ok] at h
  induction h with
  | nil => exact absurd ha List.not_mem_nil
  | cons hab hrest ih =>
    rcases List.mem_cons.mp ha with rfl | ha
    · exact ⟨_, List.mem_cons_self, hab⟩
    · obtain ⟨b, hb, hab⟩ := ih ha
      exact ⟨b, List.mem_cons_of_mem _ hb, hab⟩

theorem exists_of_mapM_of_mem {bs : List β} {b : β} (h : l.mapM f = .ok bs) (hb : b ∈ bs) :
    ∃ a ∈ l, f a = .ok b := by
  rw [mapM_eq_ok] at h
  induction h with
  | nil => exact absurd hb List.not_mem_nil
  | cons hab hrest ih =>
    rcases List.mem_cons.mp hb with rfl | hb
    · exact ⟨_, List.mem_cons_self, hab⟩
    · obtain ⟨a, ha, hab⟩ := ih hb
      exact ⟨a, List.mem_cons_of_mem _ ha, hab⟩

theorem exists_mapM_eq_ok : (∃ bs, l.mapM f = .ok bs) ↔ ∀ a ∈ l, ∃ b, f a = .ok b := by
  constructor
  · rintro ⟨bs, hbs⟩ a ha
    obtain ⟨b, -, hb⟩ := exists_of_mem_of_mapM hbs ha
    exact ⟨b, hb⟩
  · intro h
    cases hl : l.mapM f with
    | ok bs => exact ⟨bs, rfl⟩
    | error e =>
      obtain ⟨before, a, after, rfl, -, ha⟩ := mapM_eq_error.mp hl
      obtain ⟨b, hb⟩ := h a (by simp)
      rw [hb] at ha
      exact nomatch ha

/-- Two passes over a list fail as reading one of its elements would. -/
theorem passes_eq_error {γ : Type} {g : β → Except ε γ}
    (h : (l.mapM f >>= fun bs => bs.mapM g) = .error e) : ∃ a ∈ l, f a >>= g = .error e := by
  rcases bind_eq_error.mp h with h | ⟨bs, hbs, h⟩
  · obtain ⟨before, a, after, rfl, -, ha⟩ := mapM_eq_error.mp h
    exact ⟨a, by simp, bind_eq_error.mpr (.inl ha)⟩
  · obtain ⟨before, b, after, rfl, -, hb⟩ := mapM_eq_error.mp h
    obtain ⟨a, ha, hab⟩ := exists_of_mapM_of_mem hbs (b := b) (by simp)
    exact ⟨a, ha, bind_eq_error.mpr (.inr ⟨b, hab, hb⟩)⟩

/-- Two passes over a list succeed when reading each element does. -/
theorem exists_passes_eq_ok {γ : Type} {g : β → Except ε γ} :
    (∃ cs, (l.mapM f >>= fun bs => bs.mapM g) = .ok cs) ↔ ∀ a ∈ l, ∃ c, f a >>= g = .ok c := by
  constructor
  · rintro ⟨cs, hcs⟩ a ha
    obtain ⟨bs, hbs, hcs⟩ := bind_eq_ok.mp hcs
    obtain ⟨b, hb, hab⟩ := exists_of_mem_of_mapM hbs ha
    obtain ⟨c, hc⟩ := exists_mapM_eq_ok.mp ⟨cs, hcs⟩ b hb
    exact ⟨c, bind_eq_ok.mpr ⟨b, hab, hc⟩⟩
  · intro h
    cases hpasses : l.mapM f >>= fun bs => bs.mapM g with
    | ok cs => exact ⟨cs, rfl⟩
    | error e =>
      obtain ⟨a, ha, he⟩ := passes_eq_error hpasses
      obtain ⟨c, hc⟩ := h a ha
      rw [hc] at he
      exact nomatch he

end Reading

end CwlCompliance
