import CwlCompliance.Process.CallGraph
import Mathlib.Data.List.Lex
import Mathlib.Data.List.Sort
import Mathlib.Data.Nat.Find
import Mathlib.Logic.Relation

/-!
# Places in a document

Two processes of a document may be alike in everything, so a process is identified
by where it stands: the position of a process at the top, followed by the positions
of the steps that lead down to it.  The places are compared as words, which is the
order of the document: a process comes before those declared inside it, and those
inside one step before those inside a later one.

## Main definitions

* `Place`, `processAt` — a place, and the process that stands there.
* `IsFirst P l i` — position `i` holds the first element of `l` with the property `P`.
* `CwlProcess.face` — what other processes see of a process.
* `CwlProcess.references` — what the steps of a process refer to.
* `Runs`, `Reaches` — which process runs which, and what it reaches through others.
* `Listed ps P l` — `l` lists the processes with the property `P`, each occurrence
  once, in the order of the document.
* `NumberedAmong ps P a n` — the process at a place has number `n` among some.
* `SameOccurrences ps ps' l l'` — two lists are of the same places, in two documents.

## Main results

* `CwlProcess.inline_induction` — induction over the processes declared in place.
* `runs_iff` — what a process runs, by places and references.
* `Runs.eq_of_snoc` — a process declared in place is run only by the
  process that declares it.
* `Listed.filter`, `Listed.split`, `Listed.forall₂` — parts of a list, and two lists side by side.
-/

namespace CwlCompliance

/-! ### What is declared in place -/

/-- The process that a target declares in place. -/
def Target.inline? : Target → Option CwlProcess
  | .inline p => some p
  | _ => none

theorem Target.inline?_eq_some {t : Target} {p : CwlProcess} :
    t.inline? = some p ↔ t = .inline p := by
  cases t <;> simp [Target.inline?]

theorem CwlProcess.sizeOf_inline_lt {p q : CwlProcess} {s : Step} (hs : s ∈ p.steps)
    (hq : s.run = .inline q) : sizeOf q < sizeOf p := by
  have h1 : sizeOf q < sizeOf s.run := by
    rw [hq, Target.inline.sizeOf_spec]
    omega
  have h2 : sizeOf s.run < sizeOf s := by
    cases s
    simp only [Step.mk.sizeOf_spec]
    omega
  have h3 : sizeOf s < sizeOf p.steps := List.sizeOf_lt_of_mem hs
  have h4 : sizeOf p.steps < sizeOf p := by
    cases p
    simp only [CwlProcess.mk.sizeOf_spec]
    omega
  omega

/-- **Induction over the processes declared in place**: what holds of a process as
soon as it holds of those that its steps declare holds of every process. -/
theorem CwlProcess.inline_induction {motive : CwlProcess → Prop}
    (h : ∀ p, (∀ s ∈ p.steps, ∀ q, s.run = .inline q → motive q) → motive p) :
    ∀ p, motive p := by
  intro p
  induction hn : sizeOf p using Nat.strong_induction_on generalizing p with
  | _ n ih =>
    refine h p fun s hs q hq => ih (sizeOf q) ?_ q rfl
    rw [← hn]
    exact sizeOf_inline_lt hs hq

/-! ### Occurrences, step by step -/

theorem CwlProcess.stepOccurrences_eq (steps : List Step) :
    stepOccurrences steps = steps.flatMap fun s => targetOccurrences s.run := by
  induction steps with
  | nil => simp [stepOccurrences]
  | cons s rest ih =>
    obtain ⟨id, target⟩ := s
    simp [stepOccurrences, ih]

theorem CwlProcess.occurrences_eq (p : CwlProcess) :
    p.occurrences = p :: p.steps.flatMap fun s => targetOccurrences s.run := by
  rw [← stepOccurrences_eq]
  cases p
  simp [occurrences]

theorem CwlProcess.targetOccurrences_inline (p : CwlProcess) :
    targetOccurrences (.inline p) = p.occurrences := by
  simp [targetOccurrences]

theorem CwlProcess.targetOccurrences_eq_nil {t : Target} (h : t.inline? = none) :
    targetOccurrences t = [] := by
  cases t <;> simp_all [targetOccurrences, Target.inline?]

/-! ### Places -/

/-- Where a process stands: its position at the top of the document, then at every
level the position of the step that declares it. -/
abbrev Place := List ℕ

/-- The process declared in place by a step of a process. -/
def CwlProcess.child? (p : CwlProcess) (i : ℕ) : Option CwlProcess :=
  p.steps[i]?.bind fun s => s.run.inline?

theorem CwlProcess.child?_eq_some {p q : CwlProcess} {i : ℕ} :
    p.child? i = some q ↔ ∃ s, p.steps[i]? = some s ∧ s.run = .inline q := by
  simp [child?, Option.bind_eq_some_iff, Target.inline?_eq_some]

/-- The process that the steps at some positions lead down to. -/
def CwlProcess.inner? : CwlProcess → List ℕ → Option CwlProcess
  | p, [] => some p
  | p, i :: path => (p.child? i).bind fun q => q.inner? path

@[simp] theorem CwlProcess.inner?_nil (p : CwlProcess) : p.inner? [] = some p := rfl

@[simp] theorem CwlProcess.inner?_cons (p : CwlProcess) (i : ℕ) (path : List ℕ) :
    p.inner? (i :: path) = (p.child? i).bind fun q => q.inner? path := rfl

theorem CwlProcess.inner?_snoc (path : List ℕ) (i : ℕ) : ∀ p : CwlProcess,
    p.inner? (path ++ [i]) = (p.inner? path).bind fun q => q.child? i := by
  induction path with
  | nil => intro p; cases h : p.child? i <;> simp [h]
  | cons j path ih =>
    intro p
    cases h : p.child? j with
    | none => simp [h]
    | some q => simp [h, ih q]

/-- The process that stands at a place of a document with these processes at its top. -/
def processAt (ps : List CwlProcess) : Place → Option CwlProcess
  | [] => none
  | i :: path => ps[i]?.bind fun p => p.inner? path

@[simp] theorem processAt_nil (ps : List CwlProcess) : processAt ps [] = none := rfl

@[simp] theorem processAt_cons (ps : List CwlProcess) (i : ℕ) (path : List ℕ) :
    processAt ps (i :: path) = ps[i]?.bind fun p => p.inner? path := rfl

theorem processAt_top (ps : List CwlProcess) (i : ℕ) : processAt ps [i] = ps[i]? := by
  cases h : ps[i]? <;> simp [h]

theorem processAt_snoc (ps : List CwlProcess) {a : Place} (ha : a ≠ []) (i : ℕ) :
    processAt ps (a ++ [i]) = (processAt ps a).bind fun q => q.child? i := by
  cases a with
  | nil => exact absurd rfl ha
  | cons j path =>
    cases h : ps[j]? with
    | none => simp [h]
    | some p => simp [h, CwlProcess.inner?_snoc]

theorem ne_nil_of_processAt {ps : List CwlProcess} {a : Place} {p : CwlProcess}
    (h : processAt ps a = some p) : a ≠ [] := by
  rintro rfl
  simp at h

/-! ### The first of several -/

/-- Position `i` holds the first element of `l` with the property `P`. -/
def IsFirst {α : Type*} (P : α → Prop) (l : List α) (i : ℕ) : Prop :=
  (∃ a, l[i]? = some a ∧ P a) ∧ ∀ j < i, ∀ a, l[j]? = some a → ¬ P a

theorem IsFirst.unique {α : Type*} {P : α → Prop} {l : List α} {i j : ℕ}
    (hi : IsFirst P l i) (hj : IsFirst P l j) : i = j := by
  obtain ⟨⟨a, ha, hPa⟩, hbefore⟩ := hi
  obtain ⟨⟨b, hb, hPb⟩, hbefore'⟩ := hj
  rcases Nat.lt_trichotomy i j with h | h | h
  · exact absurd hPa (hbefore' i h a ha)
  · exact h
  · exact absurd hPb (hbefore j h b hb)

theorem isFirst_map {α β : Type*} {P : β → Prop} {k : α → β} {l : List α} {i : ℕ} :
    IsFirst P (l.map k) i ↔ IsFirst (fun x => P (k x)) l i := by
  simp only [IsFirst, List.getElem?_map, Option.map_eq_some_iff]
  constructor
  · rintro ⟨⟨-, ⟨x, hx, rfl⟩, hP⟩, hbefore⟩
    exact ⟨⟨x, hx, hP⟩, fun j hj y hy => hbefore j hj _ ⟨y, hy, rfl⟩⟩
  · rintro ⟨⟨x, hx, hP⟩, hbefore⟩
    refine ⟨⟨k x, ⟨x, hx, rfl⟩, hP⟩, ?_⟩
    rintro j hj - ⟨y, hy, rfl⟩
    exact hbefore j hj y hy

theorem exists_isFirst {α : Type*} {P : α → Prop} {l : List α} :
    (∃ i, IsFirst P l i) ↔ ∃ a ∈ l, P a := by
  classical
  constructor
  · rintro ⟨i, ⟨a, ha, hPa⟩, -⟩
    exact ⟨a, List.mem_of_getElem? ha, hPa⟩
  · rintro ⟨a, ha, hPa⟩
    obtain ⟨i, hi⟩ := List.getElem?_of_mem ha
    have hex : ∃ i, ∃ a, l[i]? = some a ∧ P a := ⟨i, a, hi, hPa⟩
    refine ⟨Nat.find hex, Nat.find_spec hex, ?_⟩
    intro j hj b hb hPb
    exact Nat.find_min hex hj ⟨b, hb, hPb⟩

/-- A search through images of the elements of `l` finds the image of the first element
with the property that the test stands for. -/
theorem find?_eq_some_iff_isFirst {α β : Type*} {l : List α} {t : List β} {f : ℕ → α → β}
    {q : β → Bool} {P : α → Prop} (ht : ∀ i, t[i]? = l[i]?.map (f i))
    (hq : ∀ i a, l[i]? = some a → (q (f i a) = true ↔ P a)) {b : β} :
    t.find? q = some b ↔ ∃ i a, l[i]? = some a ∧ b = f i a ∧ IsFirst P l i := by
  have himage : ∀ {i b}, t[i]? = some b ↔ ∃ a, l[i]? = some a ∧ b = f i a := by
    intro i b
    rw [ht, Option.map_eq_some_iff]
    simp only [eq_comm]
  rw [List.find?_eq_some_iff_getElem]
  constructor
  · rintro ⟨hb, i, hi, rfl, hbefore⟩
    obtain ⟨a, ha, hfa⟩ := himage.mp (List.getElem?_eq_getElem hi)
    refine ⟨i, a, ha, hfa, ⟨a, ha, (hq i a ha).mp (hfa ▸ hb)⟩, ?_⟩
    intro j hj c hc hPc
    obtain ⟨hj', hget⟩ := List.getElem?_eq_some_iff.mp (himage.mpr ⟨c, hc, rfl⟩)
    have := hbefore j hj
    rw [hget, (hq j c hc).mpr hPc] at this
    simp at this
  · rintro ⟨i, a, ha, rfl, ⟨a', ha', hP⟩, hbefore⟩
    obtain ⟨hi, hget⟩ := List.getElem?_eq_some_iff.mp (himage.mpr ⟨a, ha, rfl⟩)
    rw [ha, Option.some.injEq] at ha'
    subst ha'
    refine ⟨(hq i a ha).mpr hP, i, hi, hget, ?_⟩
    intro j hj
    obtain ⟨c, hc, hfc⟩ := himage.mp (List.getElem?_eq_getElem (Nat.lt_trans hj hi))
    have hnot := hbefore j hj c hc
    rw [← hq j c hc, ← hfc] at hnot
    simpa using hnot

/-- The first position of an element that passes a test. -/
theorem findIdx?_eq_some_iff_isFirst {α : Type*} {P : α → Bool} {l : List α} {i : ℕ} :
    l.findIdx? P = some i ↔ IsFirst (fun x => P x = true) l i := by
  rw [List.findIdx?_eq_some_iff_getElem]
  constructor
  · rintro ⟨hi, hP, hbefore⟩
    refine ⟨⟨l[i], List.getElem?_eq_getElem hi, hP⟩, fun j hj x hx => ?_⟩
    obtain ⟨-, rfl⟩ := List.getElem?_eq_some_iff.mp hx
    exact hbefore j hj
  · rintro ⟨⟨x, hx, hP⟩, hbefore⟩
    obtain ⟨hi, rfl⟩ := List.getElem?_eq_some_iff.mp hx
    exact ⟨hi, hP, fun j hj => hbefore j hj _ (List.getElem?_eq_getElem (by omega))⟩

/-- What other processes see of a process: its class and its local name. -/
def CwlProcess.face (p : CwlProcess) : ProcessClass × Option String :=
  (p.processClass, p.localId)

/-- What a name means depends on the classes and names alone. -/
theorem isFirst_of_faces {ps ps' : List CwlProcess} {i : ℕ}
    (h : ps.map CwlProcess.face = ps'.map CwlProcess.face)
    {P : ProcessClass × Option String → Prop} :
    IsFirst (fun q => P q.face) ps i ↔ IsFirst (fun q => P q.face) ps' i := by
  rw [← isFirst_map, h, isFirst_map]

theorem exists_processClass_of_faces {ps ps' : List CwlProcess} {c : ProcessClass}
    (h : ps.map CwlProcess.face = ps'.map CwlProcess.face) :
    (∃ q ∈ ps, q.processClass = c) ↔ ∃ q ∈ ps', q.processClass = c := by
  have hface : ∀ l : List CwlProcess,
      (∃ q ∈ l, q.processClass = c) ↔ ∃ x ∈ l.map CwlProcess.face, x.1 = c := by
    intro l
    simp only [List.mem_map, exists_exists_and_eq_and]
    rfl
  rw [hface, h, ← hface]

/-! ### What steps refer to -/

/-- What a target refers to. -/
def Target.reference? : Target → Option String
  | .reference locator => some locator
  | _ => none

theorem Target.reference?_eq_some {t : Target} {locator : String} :
    t.reference? = some locator ↔ t = .reference locator := by
  cases t <;> simp [reference?]

namespace CwlProcess

/-- What the steps of a process refer to. -/
def references (p : CwlProcess) : List String := p.steps.filterMap fun s => s.run.reference?

theorem mem_references {p : CwlProcess} {locator : String} :
    locator ∈ p.references ↔ ∃ s ∈ p.steps, s.run = .reference locator := by
  simp only [references, List.mem_filterMap, Target.reference?_eq_some]

end CwlProcess

/-! ### Reachability -/

/-- The process at one place runs the process at another: a step declares it in
place, or a step refers to it by its name.  What a reference means is the first
process at the top with that local name, of whatever class. -/
inductive Runs (ps : List CwlProcess) : Place → Place → Prop
  /-- A step declares the process in place. -/
  | inline {a : Place} {p q : CwlProcess} {s : Step} {i : ℕ}
      (stands : processAt ps a = some p) (step : p.steps[i]? = some s)
      (run : s.run = .inline q) : Runs ps a (a ++ [i])
  /-- A step refers to the process. -/
  | reference {a : Place} {p : CwlProcess} {s : Step} {locator : String} {j : ℕ}
      (stands : processAt ps a = some p) (step : s ∈ p.steps)
      (run : s.run = .reference locator)
      (first : IsFirst (fun t => t.localId = some (localName locator)) ps j) : Runs ps a [j]

/-- The process at one place reaches the process at another: it is that process, or
runs it directly or through others. -/
def Reaches (ps : List CwlProcess) : Place → Place → Prop :=
  Relation.ReflTransGen (Runs ps)

theorem Runs.source {ps : List CwlProcess} {a b : Place} (h : Runs ps a b) :
    ∃ p, processAt ps a = some p := by
  cases h with
  | inline stands _ _ => exact ⟨_, stands⟩
  | reference stands _ _ _ => exact ⟨_, stands⟩

theorem Runs.target {ps : List CwlProcess} {a b : Place} (h : Runs ps a b) :
    ∃ q, processAt ps b = some q := by
  cases h with
  | @inline _ q _ _ stands step run =>
    refine ⟨q, ?_⟩
    rw [processAt_snoc ps (ne_nil_of_processAt stands), stands]
    exact CwlProcess.child?_eq_some.mpr ⟨_, step, run⟩
  | reference _ _ _ first =>
    obtain ⟨⟨t, ht, -⟩, -⟩ := first
    exact ⟨t, by rw [processAt_top, ht]⟩

/-- **What a process runs**: a process that stands one step below it, or the first process at the
top with the name of a reference in its steps. -/
theorem runs_iff {ps : List CwlProcess} {a b : Place} : Runs ps a b ↔
    (a ≠ [] ∧ ∃ i, b = a ++ [i] ∧ ∃ q, processAt ps b = some q) ∨
      ∃ p, processAt ps a = some p ∧ ∃ locator ∈ p.references, ∃ j,
        IsFirst (fun t => t.localId = some (localName locator)) ps j ∧ b = [j] := by
  constructor
  · intro h
    have htarget := h.target
    cases h with
    | inline stands step run => exact .inl ⟨ne_nil_of_processAt stands, _, rfl, htarget⟩
    | reference stands step run first =>
      exact .inr ⟨_, stands, _, CwlProcess.mem_references.mpr ⟨_, step, run⟩, _, first, rfl⟩
  · rintro (⟨ha, i, rfl, q, hq⟩ | ⟨p, hp, locator, hlocator, j, hfirst, rfl⟩)
    · rw [processAt_snoc ps ha, Option.bind_eq_some_iff] at hq
      obtain ⟨p, hp, hchild⟩ := hq
      obtain ⟨s, hs, hrun⟩ := CwlProcess.child?_eq_some.mp hchild
      exact .inline hp hs hrun
    · obtain ⟨s, hs, hrun⟩ := CwlProcess.mem_references.mp hlocator
      exact .reference hp hs hrun hfirst

theorem Reaches.target {ps : List CwlProcess} {a b : Place} {p : CwlProcess}
    (ha : processAt ps a = some p) (h : Reaches ps a b) : ∃ q, processAt ps b = some q := by
  induction h with
  | refl => exact ⟨p, ha⟩
  | tail _ hbc _ => exact hbc.target

/-- A process declared in place is no target of a reference: only the process that
declares it runs it. -/
theorem Runs.eq_of_snoc {ps : List CwlProcess} {a b : Place} {i : ℕ} (hb : b ≠ [])
    (h : Runs ps a (b ++ [i])) : a = b := by
  generalize hc : b ++ [i] = c at h
  cases h with
  | inline _ _ _ => exact (List.append_inj_left' hc rfl).symm
  | reference _ _ _ _ =>
    -- a reference leads to the top of the document, which lies one level deep
    have hlen := congrArg List.length hc
    simp only [List.length_append, List.length_cons, List.length_nil] at hlen
    exact absurd (List.length_eq_zero_iff.mp (by omega)) hb

/-! ### Lists of processes in the order of the document -/

/-- `l` lists the processes with the property `P`, each occurrence once and in the
order of the document. -/
def Listed (ps : List CwlProcess) (P : Place → CwlProcess → Prop) (l : List CwlProcess) : Prop :=
  ∃ places : List Place, places.Pairwise (· < ·) ∧
    (∀ a, a ∈ places ↔ ∃ p, processAt ps a = some p ∧ P a p) ∧
    places.map (processAt ps) = l.map some

theorem Listed.congr {ps : List CwlProcess} {P Q : Place → CwlProcess → Prop}
    {l : List CwlProcess} (h : Listed ps P l)
    (hPQ : ∀ a p, processAt ps a = some p → (P a p ↔ Q a p)) : Listed ps Q l := by
  obtain ⟨places, hsorted, hmem, hmap⟩ := h
  refine ⟨places, hsorted, fun a => (hmem a).trans ?_, hmap⟩
  exact exists_congr fun p => and_congr_right fun hp => hPQ a p hp

theorem Listed.mem_iff {ps : List CwlProcess} {P : Place → CwlProcess → Prop}
    {l : List CwlProcess} (h : Listed ps P l) {p : CwlProcess} :
    p ∈ l ↔ ∃ a, processAt ps a = some p ∧ P a p := by
  obtain ⟨places, -, hmem, hmap⟩ := h
  have hp : p ∈ l ↔ some p ∈ places.map (processAt ps) := by rw [hmap]; simp
  rw [hp, List.mem_map]
  constructor
  · rintro ⟨a, ha, hat⟩
    obtain ⟨q, hq, hP⟩ := (hmem a).mp ha
    rw [hat, Option.some.injEq] at hq
    exact ⟨a, hat, hq ▸ hP⟩
  · rintro ⟨a, hat, hP⟩
    exact ⟨a, (hmem a).mpr ⟨p, hat, hP⟩, hat⟩

/-- Those of the processes listed that pass a test. -/
theorem Listed.filter {ps : List CwlProcess} {P : Place → CwlProcess → Prop} {l : List CwlProcess}
    (h : Listed ps P l) (test : CwlProcess → Bool) :
    Listed ps (fun a p => P a p ∧ test p = true) (l.filter test) := by
  obtain ⟨places, hsorted, hmem, hmap⟩ := h
  refine ⟨places.filter fun a => (processAt ps a).any test, hsorted.filter _, fun a => ?_, ?_⟩
  · rw [List.mem_filter, hmem, Option.any_eq_true]
    constructor
    · rintro ⟨⟨p, hp, hP⟩, q, hq, htest⟩
      rw [hp, Option.some.injEq] at hq
      exact ⟨p, hp, hP, hq ▸ htest⟩
    · rintro ⟨p, hp, hP, htest⟩
      exact ⟨⟨p, hp, hP⟩, p, hp, htest⟩
  · calc
      (places.filter fun a => (processAt ps a).any test).map (processAt ps)
          = (places.map (processAt ps)).filter fun o => o.any test := by
        rw [List.filter_map]
        rfl
      _ = (l.filter test).map some := by
        rw [hmap, List.filter_map]
        rfl

/-- What is listed before the process at a place, and what after it. -/
theorem Listed.split {ps : List CwlProcess} {P : Place → CwlProcess → Prop} {l : List CwlProcess}
    (h : Listed ps P l) {a : Place} {p : CwlProcess} (hp : processAt ps a = some p) (hP : P a p) :
    ∃ before after, l = before ++ p :: after ∧
      Listed ps (fun b q => P b q ∧ b < a) before ∧ Listed ps (fun b q => P b q ∧ a < b) after := by
  obtain ⟨places, hsorted, hmem, hmap⟩ := h
  obtain ⟨lower, upper, rfl⟩ := List.append_of_mem ((hmem a).mpr ⟨p, hp, hP⟩)
  rw [List.pairwise_append, List.pairwise_cons] at hsorted
  obtain ⟨hlower, ⟨hafter, hupper⟩, hacross⟩ := hsorted
  have hbefore : ∀ b ∈ lower, b < a := fun b hb => hacross b hb a List.mem_cons_self
  rw [List.map_append, List.map_cons, hp] at hmap
  obtain ⟨before, rest, rfl, hmapbefore, hmaprest⟩ := List.map_eq_append_iff.mp hmap.symm
  obtain ⟨q, after, rfl, hq, hmapafter⟩ := List.map_eq_cons_iff.mp hmaprest
  obtain rfl := Option.some.inj hq
  refine ⟨before, after, rfl, ⟨lower, hlower, fun b => ?_, hmapbefore.symm⟩,
    ⟨upper, hupper, fun b => ?_, hmapafter.symm⟩⟩
  · constructor
    · intro hb
      obtain ⟨q, hq, hQ⟩ := (hmem b).mp (List.mem_append_left _ hb)
      exact ⟨q, hq, hQ, hbefore b hb⟩
    · rintro ⟨q, hq, hQ, hlt⟩
      rcases List.mem_append.mp ((hmem b).mpr ⟨q, hq, hQ⟩) with hb | hb
      · exact hb
      · rcases List.mem_cons.mp hb with rfl | hb
        · exact absurd hlt (lt_irrefl b)
        · exact absurd hlt (lt_asymm (hafter b hb))
  · constructor
    · intro hb
      obtain ⟨q, hq, hQ⟩ := (hmem b).mp (List.mem_append_right _ (List.mem_cons_of_mem _ hb))
      exact ⟨q, hq, hQ, hafter b hb⟩
    · rintro ⟨q, hq, hQ, hlt⟩
      rcases List.mem_append.mp ((hmem b).mpr ⟨q, hq, hQ⟩) with hb | hb
      · exact absurd hlt (lt_asymm (hbefore b hb))
      · rcases List.mem_cons.mp hb with rfl | hb
        · exact absurd hlt (lt_irrefl b)
        · exact hb

/-- What stands at a place has number `n` among the processes with the property `P`: it comes
after `n - 1` of them in the order of the document. -/
def NumberedAmong (ps : List CwlProcess) (P : Place → CwlProcess → Prop) (a : Place) (n : ℕ) :
    Prop :=
  ∃ before, Listed ps (fun b q => P b q ∧ b < a) before ∧ n = before.length + 1

/-- `l` and `l'` are what stands at the same places in two documents, each place once and in
order. -/
def SameOccurrences (ps ps' l l' : List CwlProcess) : Prop :=
  ∃ places : List Place, places.Pairwise (· < ·) ∧
    places.map (processAt ps) = l.map some ∧ places.map (processAt ps') = l'.map some

section Two

variable {ps ps' l l' : List CwlProcess} {P P' : Place → CwlProcess → Prop}

/-- Where the same places have a property in two documents, the lists of what has it are of the
same places. -/
theorem Listed.exists_places (hl : Listed ps P l) (hl' : Listed ps' P' l')
    (hplaces : ∀ a, (∃ q, processAt ps a = some q ∧ P a q) ↔
      ∃ q, processAt ps' a = some q ∧ P' a q) :
    ∃ places : List Place, places.Pairwise (· < ·) ∧
      (∀ a ∈ places, ∃ q, processAt ps a = some q ∧ P a q) ∧
      places.map (processAt ps) = l.map some ∧ places.map (processAt ps') = l'.map some := by
  obtain ⟨places, hsorted, hmem, hmap⟩ := hl
  obtain ⟨places', hsorted', hmem', hmap'⟩ := hl'
  obtain rfl : places = places' :=
    hsorted.eq_of_mem_iff hsorted' fun a => by rw [hmem, hmem', hplaces]
  exact ⟨places, hsorted, fun a => (hmem a).mp, hmap, hmap'⟩

/-- Lists of the same places are related if the processes at each place are. -/
theorem Listed.forall₂ {R : CwlProcess → CwlProcess → Prop} (hl : Listed ps P l)
    (hl' : Listed ps' P' l')
    (hplaces : ∀ a, (∃ q, processAt ps a = some q ∧ P a q) ↔
      ∃ q, processAt ps' a = some q ∧ P' a q)
    (hR : ∀ a q q', processAt ps a = some q → P a q → processAt ps' a = some q' → R q q') :
    List.Forall₂ R l l' := by
  obtain ⟨places, -, hmem, hmap, hmap'⟩ := hl.exists_places hl' hplaces
  clear hl hl' hplaces
  induction places generalizing l l' with
  | nil =>
    rw [List.map_nil, eq_comm, List.map_eq_nil_iff] at hmap hmap'
    rw [hmap, hmap']
    exact .nil
  | cons a places ih =>
    obtain ⟨q, l, rfl, hq, hmap⟩ := List.map_eq_cons_iff.mp hmap.symm
    obtain ⟨q', l', rfl, hq', hmap'⟩ := List.map_eq_cons_iff.mp hmap'.symm
    rw [List.forall_mem_cons] at hmem
    obtain ⟨⟨r, hr, hP⟩, hmem⟩ := hmem
    rw [← hq, Option.some.injEq] at hr
    exact .cons (hR a q q' hq.symm (hr ▸ hP) hq'.symm) (ih hmem hmap.symm hmap'.symm)

theorem Listed.sameOccurrences (hl : Listed ps P l) (hl' : Listed ps' P' l')
    (hplaces : ∀ a, (∃ q, processAt ps a = some q ∧ P a q) ↔
      ∃ q, processAt ps' a = some q ∧ P' a q) : SameOccurrences ps ps' l l' := by
  obtain ⟨places, hsorted, -, hmap, hmap'⟩ := hl.exists_places hl' hplaces
  exact ⟨places, hsorted, hmap, hmap'⟩

/-- Where the places of one list are among those of another, the lists are of the same places
exactly when the other has no place more. -/
theorem Listed.sameOccurrences_iff (hl : Listed ps P l) (hl' : Listed ps' P' l')
    (hamong : ∀ a, (∃ q, processAt ps' a = some q ∧ P' a q) →
      ∃ q, processAt ps a = some q ∧ P a q) :
    SameOccurrences ps ps' l l' ↔ ∀ a, (∃ q, processAt ps a = some q ∧ P a q) →
      ∃ q, processAt ps' a = some q ∧ P' a q := by
  constructor
  · rintro ⟨common, -, hcommon, hcommon'⟩
    obtain ⟨places, hsorted, hmem, hmap⟩ := hl
    obtain ⟨places', hsorted', hmem', hmap'⟩ := hl'
    have hlength : ∀ {ps r : List CwlProcess} {k : List Place},
        k.map (processAt ps) = r.map some → k.length = r.length := by
      intro ps r k hk
      simpa using congrArg List.length hk
    have hsubset : places' ⊆ places := fun a ha => (hmem a).mpr (hamong a ((hmem' a).mp ha))
    -- both lists are as long as the common list of places, so no place is missing
    have hperm : places'.Perm places := by
      refine (List.subperm_of_subset (hsorted'.imp ne_of_lt) hsubset).perm_of_length_le ?_
      rw [hlength hmap, hlength hmap', ← hlength hcommon, ← hlength hcommon']
    exact fun a ha => (hmem' a).mp (hperm.mem_iff.mpr ((hmem a).mpr ha))
  · exact fun h => hl.sameOccurrences hl' fun a => ⟨h a, hamong a⟩

/-- Lists of the same places are the same if the same processes stand there. -/
theorem Listed.eq (hl : Listed ps P l) (hl' : Listed ps' P' l')
    (hplaces : ∀ a, (∃ q, processAt ps a = some q ∧ P a q) ↔
      ∃ q, processAt ps' a = some q ∧ P' a q)
    (hsame : ∀ a q, processAt ps a = some q → P a q → processAt ps' a = some q) : l = l' := by
  obtain ⟨places, -, hmem, hmap, hmap'⟩ := hl.exists_places hl' hplaces
  have heq : l.map some = l'.map some := by
    rw [← hmap, ← hmap']
    refine List.map_congr_left fun a ha => ?_
    obtain ⟨q, hq, hP⟩ := hmem a ha
    rw [hq, hsame a q hq hP]
  exact List.map_injective_iff.mpr (Option.some_injective _) heq

end Two

end CwlCompliance
