import CwlCompliance.Proofs.Process.Place

/-!
# The numbering of processes

The call graph numbers the processes of a document in document order.  A place has
the number that the graph gives to the process there.

## Main definitions

* `partStart f l i` — where the part of the element at position `i` starts in
  `l.flatMap f`.
* `CwlProcess.offset`, `number` — the number of a place below a process, and in a
  document.

## Main results

* `getElem?_nodes_number`, `exists_number` — places and nodes of the graph correspond.
* `number_lt_number` — the numbering keeps the order of the document.
-/

namespace CwlCompliance

/-! ### Parts of a concatenation -/

section Parts

variable {α β : Type*} {f : α → List β} {l : List α} {a : α} {i j k n : ℕ}

/-- Where the part of the element at a position starts in a concatenation. -/
def partStart (f : α → List β) (l : List α) (i : ℕ) : ℕ := ((l.take i).flatMap f).length

@[simp] theorem partStart_zero : partStart f l 0 = 0 := by simp [partStart]

@[simp] theorem partStart_cons_succ (x : α) :
    partStart f (x :: l) (i + 1) = (f x).length + partStart f l i := by simp [partStart]

/-- A part holds the elements that it is made of. -/
theorem getElem?_flatMap_partStart (ha : l[i]? = some a) (hk : k < (f a).length) :
    (l.flatMap f)[partStart f l i + k]? = (f a)[k]? := by
  induction l generalizing i with
  | nil => simp at ha
  | cons x l ih =>
    cases i with
    | zero =>
      rw [List.getElem?_cons_zero, Option.some.injEq] at ha
      subst ha
      rw [partStart_zero, Nat.zero_add, List.flatMap_cons, List.getElem?_append_left hk]
    | succ i =>
      rw [List.getElem?_cons_succ] at ha
      rw [partStart_cons_succ, List.flatMap_cons, List.getElem?_append_right (by omega), ← ih ha]
      congr 1
      omega

/-- Every position of a concatenation lies in some part. -/
theorem exists_partStart (hn : n < (l.flatMap f).length) :
    ∃ i a k, l[i]? = some a ∧ k < (f a).length ∧ n = partStart f l i + k := by
  induction l generalizing n with
  | nil => simp at hn
  | cons x l ih =>
    -- the place lies in the first part, or in one after it
    rcases Nat.lt_or_ge n (f x).length with h | h
    · exact ⟨0, x, n, rfl, h, by simp⟩
    · rw [List.flatMap_cons, List.length_append] at hn
      obtain ⟨i, a, k, ha, hk, he⟩ := ih (n := n - (f x).length) (by omega)
      refine ⟨i + 1, a, k, by simpa using ha, hk, ?_⟩
      rw [partStart_cons_succ]
      omega

/-- A part ends before a later one starts. -/
theorem partStart_add_length_le (ha : l[i]? = some a) (hij : i < j) :
    partStart f l i + (f a).length ≤ partStart f l j := by
  induction l generalizing i j with
  | nil => simp at ha
  | cons x l ih =>
    obtain ⟨j, rfl⟩ : ∃ j', j = j' + 1 := ⟨j - 1, by omega⟩
    cases i with
    | zero =>
      rw [List.getElem?_cons_zero, Option.some.injEq] at ha
      subst ha
      simp
    | succ i =>
      have := ih (i := i) (j := j) (by simpa using ha) (by omega)
      simp only [partStart_cons_succ]
      omega

end Parts

/-! ### The number of a place -/

/-- The processes that a step declares in place. -/
def Step.declared (s : Step) : List CwlProcess := CwlProcess.targetOccurrences s.run

/-- The number of the process that steps lead down to, counted from the process
they start at. -/
def CwlProcess.offset : CwlProcess → List ℕ → ℕ
  | _, [] => 0
  | p, i :: path =>
    1 + partStart Step.declared p.steps i + (p.child? i).elim 0 fun q => q.offset path

/-- The number of a place in a document. -/
def number (ps : List CwlProcess) : Place → ℕ
  | [] => 0
  | i :: path => partStart CwlProcess.occurrences ps i + ps[i]?.elim 0 fun p => p.offset path

namespace CwlProcess

@[simp] theorem offset_nil (p : CwlProcess) : p.offset [] = 0 := rfl

theorem offset_cons {p q : CwlProcess} {i : ℕ} (hq : p.child? i = some q) (path : List ℕ) :
    p.offset (i :: path) = 1 + partStart Step.declared p.steps i + q.offset path := by
  simp [offset, hq]

/-- One step further down counts on past what the steps before it declare. -/
theorem offset_snoc {k : ℕ} (path : List ℕ) : ∀ {p q c : CwlProcess},
    p.inner? path = some q → q.child? k = some c →
      p.offset (path ++ [k]) = p.offset path + 1 + partStart Step.declared q.steps k := by
  induction path with
  | nil =>
    intro p q c hq hc
    rw [inner?_nil, Option.some.injEq] at hq
    subst hq
    rw [List.nil_append, offset_cons hc, offset_nil, offset_nil]
    omega
  | cons i path ih =>
    intro p q c hq hc
    rw [inner?_cons, Option.bind_eq_some_iff] at hq
    obtain ⟨d, hd, hq⟩ := hq
    rw [List.cons_append, offset_cons hd, offset_cons hd, ih hq hc]
    omega

theorem length_declared {s : Step} {q : CwlProcess} (h : s.run = .inline q) :
    s.declared = q.occurrences := by
  rw [Step.declared, h, targetOccurrences_inline]

/-- The process that steps lead down to is listed under its number. -/
theorem getElem?_occurrences_offset (path : List ℕ) : ∀ {p q : CwlProcess},
    p.inner? path = some q → p.occurrences[p.offset path]? = some q := by
  induction path with
  | nil =>
    intro p q h
    rw [inner?_nil, Option.some.injEq] at h
    rw [occurrences_eq, offset_nil, List.getElem?_cons_zero, h]
  | cons i path ih =>
    intro p q h
    rw [inner?_cons, Option.bind_eq_some_iff] at h
    obtain ⟨c, hc, hq⟩ := h
    obtain ⟨s, hs, hrun⟩ := child?_eq_some.mp hc
    have hlist := ih hq
    have hlt : c.offset path < s.declared.length := by
      rw [length_declared hrun]
      exact (List.getElem?_eq_some_iff.mp hlist).1
    rw [occurrences_eq, offset_cons hc, show 1 + partStart Step.declared p.steps i + c.offset path
      = partStart Step.declared p.steps i + c.offset path + 1 by omega, List.getElem?_cons_succ]
    rw [show (fun s : Step => targetOccurrences s.run) = Step.declared from rfl,
      getElem?_flatMap_partStart hs hlt, length_declared hrun, hlist]

theorem offset_lt_length {path : List ℕ} {p q : CwlProcess} (h : p.inner? path = some q) :
    p.offset path < p.occurrences.length :=
  (List.getElem?_eq_some_iff.mp (getElem?_occurrences_offset path h)).1

/-- Every number below the count of occurrences is that of steps leading down. -/
theorem exists_offset (p : CwlProcess) : ∀ n < p.occurrences.length,
    ∃ path q, p.inner? path = some q ∧ p.offset path = n := by
  induction p using inline_induction with
  | h p ih =>
    intro n hn
    cases n with
    | zero => exact ⟨[], p, rfl, rfl⟩
    | succ n =>
      rw [occurrences_eq, List.length_cons, Nat.add_lt_add_iff_right] at hn
      obtain ⟨i, s, k, hs, hk, rfl⟩ := exists_partStart (f := Step.declared) hn
      cases hrun : s.run.inline? with
      | none =>
        -- such a step declares nothing, so no number falls to it
        rw [Step.declared, targetOccurrences_eq_nil hrun] at hk
        simp at hk
      | some c =>
        rw [Target.inline?_eq_some] at hrun
        rw [length_declared hrun] at hk
        obtain ⟨path, q, hq, hoff⟩ := ih s (List.mem_of_getElem? hs) c hrun k hk
        have hc : p.child? i = some c := child?_eq_some.mpr ⟨s, hs, hrun⟩
        refine ⟨i :: path, q, by rw [inner?_cons, hc]; exact hq, ?_⟩
        rw [offset_cons hc, hoff]
        omega

/-- Steps that come first in the order of words lead to a smaller number. -/
theorem offset_lt_offset (path₁ : List ℕ) : ∀ {path₂ : List ℕ} {p q₁ q₂ : CwlProcess},
    p.inner? path₁ = some q₁ → p.inner? path₂ = some q₂ → path₁ < path₂ →
      p.offset path₁ < p.offset path₂ := by
  induction path₁ with
  | nil =>
    intro path₂ p q₁ q₂ _ h₂ hlt
    cases path₂ with
    | nil => simp at hlt
    | cons j path₂ =>
      rw [inner?_cons, Option.bind_eq_some_iff] at h₂
      obtain ⟨c, hc, -⟩ := h₂
      rw [offset_cons hc, offset_nil]
      omega
  | cons i path₁ ih =>
    intro path₂ p q₁ q₂ h₁ h₂ hlt
    cases path₂ with
    | nil => simp at hlt
    | cons j path₂ =>
      rw [inner?_cons, Option.bind_eq_some_iff] at h₁ h₂
      obtain ⟨c₁, hc₁, hq₁⟩ := h₁
      obtain ⟨c₂, hc₂, hq₂⟩ := h₂
      rw [offset_cons hc₁, offset_cons hc₂]
      -- the paths part at this step, or later within one process
      rcases List.cons_lt_cons_iff.mp hlt with hij | ⟨rfl, hrest⟩
      · obtain ⟨s, hs, hrun⟩ := child?_eq_some.mp hc₁
        have h1 := partStart_add_length_le (f := Step.declared) hs hij
        have h2 := offset_lt_length hq₁
        rw [length_declared hrun] at h1
        omega
      · rw [hc₁, Option.some.injEq] at hc₂
        subst hc₂
        have := ih hq₁ hq₂ hrest
        omega

end CwlProcess

/-! ### The nodes of the call graph -/

section Nodes

variable {ps : List CwlProcess} {a b : Place} {p q : CwlProcess}

theorem number_cons {i : ℕ} (hp : ps[i]? = some p) (path : List ℕ) :
    number ps (i :: path) = partStart CwlProcess.occurrences ps i + p.offset path := by
  simp [number, hp]

/-- A process declared in place counts on from the process that declares it. -/
theorem number_snoc {k : ℕ} (hp : processAt ps a = some p) (hq : p.child? k = some q) :
    number ps (a ++ [k]) = number ps a + 1 + partStart Step.declared p.steps k := by
  cases a with
  | nil => simp at hp
  | cons i path =>
    rw [processAt_cons, Option.bind_eq_some_iff] at hp
    obtain ⟨t, ht, hp⟩ := hp
    rw [List.cons_append, number_cons ht, number_cons ht, CwlProcess.offset_snoc path hp hq]
    omega

theorem nodes_ofProcesses (ps : List CwlProcess) :
    (CallGraph.ofProcesses ps).nodes = ps.flatMap CwlProcess.occurrences := rfl

/-- The node with the number of a place is the process that stands there. -/
theorem getElem?_nodes_number (h : processAt ps a = some q) :
    (CallGraph.ofProcesses ps).nodes[number ps a]? = some q := by
  cases a with
  | nil => simp at h
  | cons i path =>
    rw [processAt_cons, Option.bind_eq_some_iff] at h
    obtain ⟨p, hp, hq⟩ := h
    rw [nodes_ofProcesses, number_cons hp, getElem?_flatMap_partStart hp
      (CwlProcess.offset_lt_length hq), CwlProcess.getElem?_occurrences_offset path hq]

/-- Every node of the graph stands at some place. -/
theorem exists_number {n : ℕ} (hn : n < (CallGraph.ofProcesses ps).nodes.length) :
    ∃ a q, processAt ps a = some q ∧ number ps a = n := by
  rw [nodes_ofProcesses] at hn
  obtain ⟨i, p, k, hp, hk, rfl⟩ := exists_partStart hn
  obtain ⟨path, q, hq, rfl⟩ := p.exists_offset k hk
  refine ⟨i :: path, q, by rw [processAt_cons, hp]; exact hq, ?_⟩
  rw [number_cons hp]

/-- The numbering keeps the order of the document. -/
theorem number_lt_number (ha : processAt ps a = some p) (hb : processAt ps b = some q)
    (hab : a < b) : number ps a < number ps b := by
  cases a with
  | nil => simp at ha
  | cons i path₁ =>
    cases b with
    | nil => simp at hb
    | cons j path₂ =>
      rw [processAt_cons, Option.bind_eq_some_iff] at ha hb
      obtain ⟨c₁, hc₁, hq₁⟩ := ha
      obtain ⟨c₂, hc₂, hq₂⟩ := hb
      rw [number_cons hc₁, number_cons hc₂]
      rcases List.cons_lt_cons_iff.mp hab with hij | ⟨rfl, hrest⟩
      · have h1 := partStart_add_length_le (f := CwlProcess.occurrences) hc₁ hij
        have h2 := CwlProcess.offset_lt_length hq₁
        omega
      · rw [hc₁, Option.some.injEq] at hc₂
        subst hc₂
        have := CwlProcess.offset_lt_offset path₁ hq₁ hq₂ hrest
        omega

/-- A smaller number stands earlier in the document. -/
theorem lt_of_number_lt (ha : processAt ps a = some p) (hb : processAt ps b = some q)
    (h : number ps a < number ps b) : a < b := by
  rcases lt_trichotomy a b with hab | rfl | hba
  · exact hab
  · omega
  · have := number_lt_number hb ha hba
    omega

/-- Places with one number are the same. -/
theorem eq_of_number_eq (ha : processAt ps a = some p) (hb : processAt ps b = some q)
    (h : number ps a = number ps b) : a = b := by
  rcases lt_trichotomy a b with hab | hab | hab
  · have := number_lt_number ha hb hab
    omega
  · exact hab
  · have := number_lt_number hb ha hab
    omega

end Nodes

end CwlCompliance
