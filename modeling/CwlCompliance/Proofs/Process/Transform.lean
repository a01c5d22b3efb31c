import CwlCompliance.Proofs.Process.Place

/-!
# Changing the attributes of processes

A change of the processes of a document, those declared in place included, that leaves
the steps where they are.  As long as such a change keeps the local names of processes
and of references, it leaves alone which process runs which.

## Main definitions

* `CwlProcess.transform f g` — the attributes of every process changed by `f`, every
  reference by `g`.
* `KeepsNames f g` — local names stay as they are.

## Main results

* `processAt_map_transform` — what stands at a place after the change.
* `reaches_map_transform` — **reachability does not change.**
-/

namespace CwlCompliance

variable {f : CwlProcess → CwlProcess} {g : String → String}

namespace CwlProcess

mutual

/-- A process with its own attributes changed by `f` and its references by `g`, and
the same for the processes declared inside it. -/
def transform (f : CwlProcess → CwlProcess) (g : String → String) : CwlProcess → CwlProcess
  | p@⟨_, _, _, _, _, _, _, _, steps, _⟩ => { f p with steps := transformSteps f g steps }

/-- Steps with what they run changed. -/
def transformSteps (f : CwlProcess → CwlProcess) (g : String → String) : List Step → List Step
  | [] => []
  | ⟨id, run⟩ :: rest => ⟨id, transformTarget f g run⟩ :: transformSteps f g rest

/-- A target with what it declares in place, or refers to, changed. -/
def transformTarget (f : CwlProcess → CwlProcess) (g : String → String) : Target → Target
  | .unspecified => .unspecified
  | .reference locator => .reference (g locator)
  | .inline p => .inline (transform f g p)

end

theorem transform_eq (p : CwlProcess) :
    p.transform f g = { f p with steps := transformSteps f g p.steps } := by
  cases p
  rw [transform]

theorem transformSteps_eq_map (steps : List Step) : transformSteps f g steps =
    steps.map fun s => ⟨s.id, transformTarget f g s.run⟩ := by
  induction steps with
  | nil => rfl
  | cons s rest ih =>
    obtain ⟨id, run⟩ := s
    rw [transformSteps, ih, List.map_cons]

theorem transform_steps (p : CwlProcess) : (p.transform f g).steps =
    p.steps.map fun s => ⟨s.id, transformTarget f g s.run⟩ := by
  rw [transform_eq, ← transformSteps_eq_map]

theorem reference?_transformTarget (t : Target) :
    (transformTarget f g t).reference? = t.reference?.map g := by
  cases t <;> rfl

theorem references_transform (p : CwlProcess) :
    (p.transform f g).references = p.references.map g := by
  rw [references, references, transform_steps, List.filterMap_map, List.map_filterMap]
  congr 1
  funext s
  exact reference?_transformTarget s.run

theorem inline?_transformTarget (t : Target) :
    (transformTarget f g t).inline? = t.inline?.map (transform f g) := by
  cases t <;> rfl

theorem child?_transform (p : CwlProcess) (i : ℕ) :
    (p.transform f g).child? i = (p.child? i).map (transform f g) := by
  rw [child?, child?, transform_steps, List.getElem?_map]
  cases p.steps[i]? with
  | none => rfl
  | some s => exact inline?_transformTarget s.run

theorem inner?_transform (path : List ℕ) : ∀ p : CwlProcess,
    (p.transform f g).inner? path = (p.inner? path).map (transform f g) := by
  induction path with
  | nil => intro p; rfl
  | cons i path ih =>
    intro p
    rw [inner?_cons, inner?_cons, child?_transform]
    cases p.child? i with
    | none => rfl
    | some q => exact ih q

end CwlProcess

open CwlProcess (transform)

section Places

variable {ps : List CwlProcess} {a b : Place}

/-- What stands at a place after the change is what stood there, changed. -/
theorem processAt_map_transform (ps : List CwlProcess) (a : Place) :
    processAt (ps.map (transform f g)) a = (processAt ps a).map (transform f g) := by
  cases a with
  | nil => rfl
  | cons i path =>
    rw [processAt_cons, processAt_cons, List.getElem?_map]
    cases ps[i]? with
    | none => rfl
    | some p => exact CwlProcess.inner?_transform path p

/-- The local names of processes and references stay as they are. -/
structure KeepsNames (f : CwlProcess → CwlProcess) (g : String → String) : Prop where
  /-- Those of processes do. -/
  process : ∀ p, (f p).localId = p.localId
  /-- Those of references do. -/
  reference : ∀ locator, localName (g locator) = localName locator

theorem KeepsNames.localId (h : KeepsNames f g) (p : CwlProcess) :
    (p.transform f g).localId = p.localId := by
  rw [CwlProcess.transform_eq]
  exact h.process p

theorem runs_map_transform (h : KeepsNames f g) :
    Runs (ps.map (transform f g)) a b ↔ Runs ps a b := by
  -- a name means the same process before and after
  have hfirst : ∀ name j, IsFirst (fun t => t.localId = some name) (ps.map (transform f g)) j ↔
      IsFirst (fun t => t.localId = some name) ps j := by
    intro name j
    rw [isFirst_map]
    simp only [h.localId]
  have htaken : (∃ q, processAt (ps.map (transform f g)) b = some q) ↔
      ∃ q, processAt ps b = some q := by
    rw [processAt_map_transform, ← Option.isSome_iff_exists, ← Option.isSome_iff_exists,
      Option.isSome_map]
  rw [runs_iff, runs_iff]
  refine or_congr (and_congr_right fun _ => ?_) ?_
  · exact exists_congr fun i => and_congr_right fun _ => htaken
  · simp only [processAt_map_transform, Option.map_eq_some_iff, exists_exists_and_eq_and,
      CwlProcess.references_transform, List.mem_map, h.reference, hfirst]

/-- **Reachability does not change** as long as local names stay as they are. -/
theorem reaches_map_transform (h : KeepsNames f g) :
    Reaches (ps.map (transform f g)) a b ↔ Reaches ps a b := by
  have hruns : Runs (ps.map (transform f g)) = Runs ps := by
    funext a b
    exact propext (runs_map_transform h)
  rw [Reaches, hruns, Reaches]

end Places

end CwlCompliance
