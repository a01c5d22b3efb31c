import CwlCompliance.Proofs.Process.Place

/-!
# Changing one process of a document

The process at one place of a document is changed, and with it the processes around it, which
declare it in place.  These keep all that is their own: their attributes and what their steps refer
to.  As long as the change keeps what the process itself declares in place, the same places are
taken before and after it.

## Main definitions

* `changeAt f a ps` — the processes of a document with the one at place `a` changed by `f`.
* `CwlProcess.SameOwn` — two processes differ at most in what is declared in place in them.

## Main results

* `processAt_changeAt`, `CwlProcess.sameOwn_changeSeen` — **what stands at a place after the
  change.**
* `runs_changeAt_iff` — which process runs which after the change.
* `reaches_changeAt` — if the change keeps the references, reachability does not change.
* `Listed.forall₂_changeAt` — what is listed before and after the change.
-/

namespace CwlCompliance

/-! ### The change -/

/-- A target with the process that it declares in place changed. -/
def Target.mapInline (f : CwlProcess → CwlProcess) : Target → Target
  | .inline p => .inline (f p)
  | t => t

theorem Target.inline?_mapInline (f : CwlProcess → CwlProcess) (t : Target) :
    (t.mapInline f).inline? = t.inline?.map f := by
  cases t <;> rfl

theorem Target.reference?_mapInline (f : CwlProcess → CwlProcess) (t : Target) :
    (t.mapInline f).reference? = t.reference? := by
  cases t <;> rfl

namespace CwlProcess

/-- A process with the one that some steps lead down to changed. -/
def changeInner (f : CwlProcess → CwlProcess) : List ℕ → CwlProcess → CwlProcess
  | [], p => f p
  | i :: path, p =>
    { p with
      steps := p.steps.modify i fun s =>
        { s with run := s.run.mapInline fun q => changeInner f path q } }

/-- What the change of the process that steps lead down to makes of the process that the steps `b`
lead down to. -/
def changeSeen (f : CwlProcess → CwlProcess) : List ℕ → List ℕ → CwlProcess → CwlProcess
  | path, [], q => changeInner f path q
  | [], _ :: _, q => q
  | i :: path, j :: b, q => if i = j then changeSeen f path b q else q

/-- Two processes differ at most in what is declared in place in them. -/
structure SameOwn (p p' : CwlProcess) : Prop where
  /-- They have the same attributes. -/
  attributes : p' = { p with steps := p'.steps }
  /-- Their steps refer to the same processes. -/
  references : p'.references = p.references

theorem SameOwn.refl (p : CwlProcess) : p.SameOwn p := by
  cases p
  exact ⟨rfl, rfl⟩

theorem SameOwn.face {p p' : CwlProcess} (h : p.SameOwn p') : p'.face = p.face := by
  rw [h.attributes]
  rfl

/-- A change keeps what a process declares in place. -/
def KeepsInPlace (f : CwlProcess → CwlProcess) (p : CwlProcess) : Prop :=
  ∀ i, (f p).child? i = p.child? i

variable {f : CwlProcess → CwlProcess}

theorem child?_changeInner_cons (i : ℕ) (path : List ℕ) (p : CwlProcess) (j : ℕ) :
    (changeInner f (i :: path) p).child? j =
      if i = j then (p.child? j).map (changeInner f path) else p.child? j := by
  rw [changeInner, child?, child?, List.getElem?_modify]
  cases p.steps[j]? with
  | none => simp
  | some s =>
    by_cases hij : i = j
    · simp [hij, Target.inline?_mapInline]
    · simp [hij]

/-- The process at which the steps start keeps its own. -/
theorem sameOwn_changeInner_cons (i : ℕ) (path : List ℕ) (p : CwlProcess) :
    p.SameOwn (changeInner f (i :: path) p) := by
  refine ⟨rfl, ?_⟩
  have hkeep : ∀ (steps : List Step) (i : ℕ),
      (steps.modify i fun s => { s with run := s.run.mapInline (changeInner f path) }).filterMap
        (fun s => s.run.reference?) = steps.filterMap fun s => s.run.reference? := by
    intro steps
    induction steps with
    | nil => intro i; simp
    | cons s steps ih =>
      intro i
      cases i with
      | zero => simp [List.filterMap_cons, Target.reference?_mapInline]
      | succ i => simp [List.filterMap_cons, ih]
  exact hkeep p.steps i

theorem changeSeen_of_head_ne {i j : ℕ} (h : i ≠ j) (path b : List ℕ) :
    changeSeen f (i :: path) (j :: b) = fun q => q := by
  funext q
  rw [changeSeen, if_neg h]

/-- At the end of the steps stands what the change makes of the process there, elsewhere a process
with the same attributes and references. -/
theorem sameOwn_changeSeen (path : List ℕ) : ∀ (b : List ℕ) (q : CwlProcess),
    SameOwn (if b = path then f q else q) (changeSeen f path b q) := by
  induction path with
  | nil =>
    intro b q
    cases b with
    | nil => exact .refl _
    | cons j b => exact .refl q
  | cons i path ih =>
    intro b q
    cases b with
    | nil => exact sameOwn_changeInner_cons i path q
    | cons j b =>
      by_cases hij : i = j
      · subst hij
        rw [changeSeen, if_pos rfl]
        simpa only [List.cons.injEq, true_and] using ih b q
      · rw [changeSeen_of_head_ne hij, if_neg fun h => hij (List.cons.inj h).1.symm]
        exact .refl q

theorem changeSeen_self (a : List ℕ) (q : CwlProcess) : changeSeen f a a q = f q := by
  induction a with
  | nil => rfl
  | cons i a ih => rw [changeSeen, if_pos rfl, ih]

theorem face_changeSeen (hface : ∀ q, (f q).face = q.face) (a b : List ℕ) (q : CwlProcess) :
    (changeSeen f a b q).face = q.face := by
  rw [(sameOwn_changeSeen a b q).face, apply_ite CwlProcess.face, hface, ite_self]

/-- What stands below a process after the change. -/
theorem inner?_changeInner (path : List ℕ) : ∀ (b : List ℕ) (p : CwlProcess),
    (∀ q, p.inner? path = some q → KeepsInPlace f q) →
      (changeInner f path p).inner? b = (p.inner? b).map (changeSeen f path b) := by
  induction path with
  | nil =>
    intro b p hf
    cases b with
    | nil => rfl
    | cons j b =>
      rw [inner?_cons, inner?_cons, changeInner, hf p rfl j]
      exact Option.map_id'.symm
  | cons i path ih =>
    intro b p hf
    cases b with
    | nil => rfl
    | cons j b =>
      rw [inner?_cons, inner?_cons, child?_changeInner_cons]
      by_cases hij : i = j
      · subst hij
        simp only [changeSeen, if_true]
        cases hc : p.child? i with
        | none => rfl
        | some c =>
          -- the change lies further down in the process that is declared here
          refine ih b c fun q hq => hf q ?_
          rw [inner?_cons, hc]
          exact hq
      · simp only [if_neg hij, changeSeen_of_head_ne hij, Option.map_id']

end CwlProcess

/-- The processes of a document with the one at a place changed. -/
def changeAt (f : CwlProcess → CwlProcess) : Place → List CwlProcess → List CwlProcess
  | [], ps => ps
  | i :: path, ps => ps.modify i (CwlProcess.changeInner f path)

section Places

variable {f : CwlProcess → CwlProcess} {ps : List CwlProcess} {a b c : Place}

variable (hf : ∀ q, processAt ps a = some q → CwlProcess.KeepsInPlace f q)
include hf

/-- **What stands at a place after the change** is what the change makes of the process there. -/
theorem processAt_changeAt (b : Place) :
    processAt (changeAt f a ps) b = (processAt ps b).map (CwlProcess.changeSeen f a b) := by
  cases b with
  | nil => rfl
  | cons j b =>
    cases a with
    | nil => exact Option.map_id'.symm
    | cons i path =>
      rw [processAt_cons, processAt_cons, changeAt, List.getElem?_modify]
      by_cases hij : i = j
      · subst hij
        simp only [CwlProcess.changeSeen, if_true]
        cases hp : ps[i]? with
        | none => rfl
        | some p =>
          refine CwlProcess.inner?_changeInner path b p fun q hq => hf q ?_
          rw [processAt_cons, hp]
          exact hq
      · simp only [if_neg hij, CwlProcess.changeSeen_of_head_ne hij, Option.map_id',
          Option.map_eq_map]

/-- The same places are taken. -/
theorem exists_changeAt_iff :
    (∃ q, processAt (changeAt f a ps) b = some q) ↔ ∃ q, processAt ps b = some q := by
  rw [processAt_changeAt hf, ← Option.isSome_iff_exists, ← Option.isSome_iff_exists,
    Option.isSome_map]

/-! ### Faces and references -/

/-- The change keeps the classes and local names of the processes at the top, if it keeps those of
the process that it changes. -/
theorem map_face_changeAt (hface : ∀ q, (f q).face = q.face) :
    (changeAt f a ps).map CwlProcess.face = ps.map CwlProcess.face := by
  refine List.ext_getElem? fun i => ?_
  rw [List.getElem?_map, List.getElem?_map, ← processAt_top, ← processAt_top,
    processAt_changeAt hf, Option.map_map]
  congr 1
  funext q
  exact CwlProcess.face_changeSeen hface a [i] q

/-- The same places are taken by processes with some faces. -/
theorem exists_face_changeAt_iff (hface : ∀ q, (f q).face = q.face)
    {Q : ProcessClass × Option String → Prop} :
    (∃ q, processAt (changeAt f a ps) b = some q ∧ Q q.face) ↔
      ∃ q, processAt ps b = some q ∧ Q q.face := by
  simp only [processAt_changeAt hf, Option.map_eq_some_iff, exists_exists_and_eq_and,
    CwlProcess.face_changeSeen hface]

/-- Which process runs which after the change: the process that was changed runs what it refers to
now, the others what they ran before. -/
theorem runs_changeAt_iff (hface : ∀ q, (f q).face = q.face) : Runs (changeAt f a ps) b c ↔
    (b ≠ [] ∧ ∃ i, c = b ++ [i] ∧ ∃ q, processAt ps c = some q) ∨
      ∃ q, processAt ps b = some q ∧ ∃ locator ∈ (if b = a then f q else q).references, ∃ j,
        IsFirst (fun t => t.localId = some (localName locator)) ps j ∧ c = [j] := by
  have hfirst : ∀ name j, IsFirst (fun t => t.localId = some name) (changeAt f a ps) j ↔
      IsFirst (fun t => t.localId = some name) ps j := fun name j =>
    isFirst_of_faces (P := fun x => x.2 = some name) (map_face_changeAt hf hface)
  rw [runs_iff]
  simp only [exists_changeAt_iff hf]
  simp only [hfirst, processAt_changeAt hf, Option.map_eq_some_iff, exists_exists_and_eq_and,
    (CwlProcess.sameOwn_changeSeen a b _).references]

/-- If the change keeps what the process refers to as well, reachability does not change. -/
theorem reaches_changeAt (hface : ∀ q, (f q).face = q.face)
    (hreferences : ∀ q, (f q).references = q.references) :
    Reaches (changeAt f a ps) b c ↔ Reaches ps b c := by
  have hruns : Runs (changeAt f a ps) = Runs ps := by
    funext b c
    refine propext ?_
    rw [runs_changeAt_iff hf hface, runs_iff]
    simp only [apply_ite CwlProcess.references, hreferences, ite_self]
  rw [Reaches, hruns, Reaches]

/-- **What is listed before and after the change**, as long as it is listed for its place and its
face: the process that was changed, changed, and other processes with the same attributes. -/
theorem Listed.forall₂_changeAt {l l' : List CwlProcess} {P P' : Place → CwlProcess → Prop}
    (hl : Listed ps P l) (hl' : Listed (changeAt f a ps) P' l')
    (hface : ∀ q, (f q).face = q.face)
    (hP : ∀ b q q', q'.face = q.face → (P' b q' ↔ P b q)) :
    List.Forall₂ (fun q q' => q.SameOwn q' ∨
      (processAt ps a = some q ∧ P a q) ∧ (f q).SameOwn q') l l' := by
  refine hl.forall₂ hl' (fun b => ?_) fun b q q' hq hPq hq' => ?_
  · rw [processAt_changeAt hf]
    constructor
    · rintro ⟨q, hq, hPq⟩
      exact ⟨_, by rw [hq, Option.map_some],
        (hP b q _ (CwlProcess.face_changeSeen hface a b q)).mpr hPq⟩
    · rintro ⟨q', hq', hPq'⟩
      obtain ⟨q, hq, rfl⟩ := Option.map_eq_some_iff.mp hq'
      exact ⟨q, hq, (hP b q _ (CwlProcess.face_changeSeen hface a b q)).mp hPq'⟩
  · rw [processAt_changeAt hf, hq, Option.map_some, Option.some.injEq] at hq'
    subst hq'
    have hown := CwlProcess.sameOwn_changeSeen (f := f) a b q
    split at hown
    · next hb =>
      subst hb
      exact .inr ⟨⟨hq, hPq⟩, hown⟩
    · exact .inl hown

end Places

end CwlCompliance
