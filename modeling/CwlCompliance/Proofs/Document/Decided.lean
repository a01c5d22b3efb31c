import CwlCompliance.Process.Malformed
import CwlCompliance.Proofs.Lists

/-!
# What decides a reading

A reading of a document gives a value or says why there is none.  Readings are put
together one after the other, and the first that fails decides; of its cause only
matters whether it is that a process has no proper class.

## Main definitions

* `Decided x well fault` — `x` succeeds exactly when `well` holds, and fails over the
  class of a process exactly when `fault` does.

## Main results

* `Decided.bind`, `decided_mapM`, `decided_twice` — how what decides is put together.
-/

namespace CwlCompliance

/-- The code of a process without a proper class. -/
def classCode : String := "AP-PARSE-003"

/-- The code of any other wrong shape. -/
def shapeCode : String := "AP-PARSE-002"

/-- A reading succeeds exactly when `well` holds, and fails over the class of a process
exactly when `fault` does. -/
structure Decided {α : Type} (x : Except Malformed α) (well fault : Prop) : Prop where
  /-- When it succeeds. -/
  ok : (∃ a, x = .ok a) ↔ well
  /-- When it fails over a class. -/
  overClass : (∃ e, x = .error e ∧ e.code = classCode) ↔ fault
  /-- What it fails over otherwise. -/
  otherwise : ∀ e, x = .error e → e.code = classCode ∨ e.code = shapeCode

section Decided

variable {α β : Type} {x : Except Malformed α} {f : α → Except Malformed β} {P F Q G : Prop}

theorem Decided.congr (h : Decided x P F) (hP : P ↔ Q) (hF : F ↔ G) : Decided x Q G :=
  ⟨h.ok.trans hP, h.overClass.trans hF, h.otherwise⟩

theorem decided_ok (a : α) : Decided (.ok a) True False where
  ok := iff_of_true ⟨a, rfl⟩ trivial
  overClass := iff_of_false (fun ⟨_, h, _⟩ => nomatch h) id
  otherwise _ h := nomatch h

theorem decided_shape {e : Malformed} (he : e.code = shapeCode) :
    Decided (.error e : Except Malformed α) False False where
  ok := iff_of_false (fun ⟨_, h⟩ => nomatch h) id
  overClass := by
    refine iff_of_false ?_ id
    rintro ⟨e', ⟨⟩, he'⟩
    rw [he] at he'
    exact absurd he' (by decide)
  otherwise := by
    rintro e' ⟨⟩
    exact .inr he

theorem decided_class {e : Malformed} (he : e.code = classCode) :
    Decided (.error e : Except Malformed α) False True where
  ok := iff_of_false (fun ⟨_, h⟩ => nomatch h) id
  overClass := iff_of_true ⟨e, rfl, he⟩ trivial
  otherwise := by
    rintro e' ⟨⟩
    exact .inl he

theorem Decided.error_congr {e : Malformed} (h : Decided (.error e : Except Malformed α) P F) :
    Decided (.error e : Except Malformed β) P F where
  ok := iff_of_false (fun ⟨_, h⟩ => nomatch h) fun hP => nomatch (h.ok.mpr hP)
  overClass := by
    rw [← h.overClass]
    simp only [Except.error.injEq]
  otherwise e' he' := h.otherwise e' (by rw [Except.error.injEq] at he' ⊢; exact he')

/-- One reading after another: the second counts once the first has succeeded. -/
theorem Decided.bind (hx : Decided x P F) (hf : ∀ a, x = .ok a → Decided (f a) Q G) :
    Decided (x >>= f) (P ∧ Q) (F ∨ P ∧ G) := by
  cases x with
  | error e =>
    have hP : ¬P := fun h => nomatch (hx.ok.mpr h)
    exact hx.error_congr.congr (by simp [hP]) (by simp [hP])
  | ok a =>
    have hP : P := hx.ok.mp ⟨a, rfl⟩
    have hF : ¬F := fun h => nomatch (hx.overClass.mpr h)
    exact (hf a rfl).congr (by simp [hP]) (by simp [hP, hF])

theorem Decided.map {g : α → β} (hx : Decided x P F) : Decided (g <$> x) P F := by
  cases x with
  | error e => exact hx.error_congr
  | ok a =>
    have hP : P := hx.ok.mp ⟨a, rfl⟩
    have hF : ¬F := fun h => nomatch (hx.overClass.mpr h)
    exact (decided_ok (g a)).congr (iff_of_true trivial hP) (iff_of_false id hF)

/-- A reading that never fails over a class, after which another counts. -/
theorem Decided.bindShape (hx : Decided x P False) (hf : ∀ a, x = .ok a → Decided (f a) Q G) :
    Decided (x >>= f) (P ∧ Q) (P ∧ G) :=
  (hx.bind hf).congr Iff.rfl (by rw [false_or])

/-- A list is decided by the first of its elements that is bad. -/
theorem decided_mapM {P F : α → Prop} {l : List α} (h : ∀ a ∈ l, Decided (f a) (P a) (F a)) :
    Decided (l.mapM f) (∀ a ∈ l, P a) (FirstBad P F l) := by
  induction l with
  | nil => exact (decided_ok []).congr (by simp) (iff_of_false id firstBad_nil)
  | cons a l ih =>
    rw [List.forall_mem_cons] at h
    rw [List.mapM_cons]
    refine (h.1.bind fun b _ => (ih h.2).map (g := fun bs => b :: bs)).congr ?_ ?_
    · rw [List.forall_mem_cons]
    · rw [firstBad_cons]

/-- The same for a list whose elements are read with their numbers. -/
theorem decided_mapM_zipIdx {P F : α → Prop} {l : List α} {n : ℕ}
    {f : α × ℕ → Except Malformed β} (h : ∀ a ∈ l, ∀ k, Decided (f (a, k)) (P a) (F a)) :
    Decided ((l.zipIdx n).mapM f) (∀ a ∈ l, P a) (FirstBad P F l) := by
  have hall : ∀ x ∈ l.zipIdx n, Decided (f x) (P x.1) (F x.1) :=
    fun x hx => forall_mem_zipIdx_fst.mpr h x hx x.2
  refine (decided_mapM hall).congr forall_mem_zipIdx_fst ?_
  conv_rhs => rw [← List.zipIdx_map_fst n l]
  exact firstBad_map

/-- A list that never fails over a class. -/
theorem decided_mapM_shape {P : α → Prop} {l : List α}
    (h : ∀ a ∈ l, Decided (f a) (P a) False) : Decided (l.mapM f) (∀ a ∈ l, P a) False :=
  (decided_mapM h).congr Iff.rfl (iff_of_false firstBad_false id)

/-- A list that is gone through with what was gathered so far, and never fails over a
class. -/
theorem decided_foldlM {σ : Type} {step : σ → α → Except Malformed σ} {P : α → Prop}
    {l : List α} (h : ∀ a ∈ l, ∀ s, Decided (step s a) (P a) False) :
    ∀ s, Decided (l.foldlM step s) (∀ a ∈ l, P a) False := by
  induction l with
  | nil => exact fun s => (decided_ok s).congr (by simp) Iff.rfl
  | cons a l ih =>
    intro s
    rw [List.forall_mem_cons] at h
    rw [List.foldlM_cons, List.forall_mem_cons]
    exact ((h.1 s).bindShape fun s' _ => ih h.2 s').congr Iff.rfl (by simp)

/-- Two passes over a list accept what one pass would, as long as neither ever fails
over a class. -/
theorem decided_twice {γ : Type} {g : β → Except Malformed γ} {P : α → Prop} {l : List α}
    (h : ∀ a ∈ l, Decided (f a >>= g) (P a) False) :
    Decided (l.mapM f >>= fun bs => bs.mapM g) (∀ a ∈ l, P a) False := by
  -- whichever pass fails first, it fails over the shape of some element
  have herror : ∀ e, (l.mapM f >>= fun bs => bs.mapM g) = .error e → e.code = shapeCode := by
    intro e he
    obtain ⟨a, ha, he⟩ := Reading.passes_eq_error he
    rcases (h a ha).otherwise e he with hclass | hshape
    · exact ((h a ha).overClass.mp ⟨e, he, hclass⟩).elim
    · exact hshape
  refine ⟨?_, ?_, fun e he => .inr (herror e he)⟩
  · rw [Reading.exists_passes_eq_ok]
    exact forall₂_congr fun a ha => (h a ha).ok
  · refine iff_of_false ?_ id
    rintro ⟨e, he, hclass⟩
    rw [herror e he] at hclass
    exact absurd hclass (by decide)

end Decided

end CwlCompliance
