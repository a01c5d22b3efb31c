import CwlCompliance.Proofs.Package.Respelling
import CwlCompliance.Proofs.Process.Change

/-!
# References into other documents

A step may refer to a process of another document, by the location of that document and a name.
What a reference means goes by the name alone, so such a step runs the process of that name in this
document if there is one: the reference brings into scope what this process reaches.

## Main definitions

* `CwlProcess.detach`, `Package.detach` — a step that runs nothing.
* `Package.Detached` — a package without a reference of a step into another document.

## Main results

* `reflTransGen_edge` — what one edge more leads to.
* `Package.Detached.reaches_iff` — what the reference lets a process reach.
* `Package.tools_detached` — **what the reference brings into scope, and when that is nothing.**
* `Package.foreign_reference_in_scope` — a reference into a document that is none of this one's.
-/

namespace CwlCompliance

/-! ### One edge more -/

/-- Where a relation has edges more from one element, they lead to what is reached from their
ends. -/
theorem reflTransGen_edge {α : Type*} {r r' : α → α → Prop} {u x y : α} {T : α → Prop}
    (h : ∀ b c, r' b c ↔ r b c ∨ b = u ∧ T c) : Relation.ReflTransGen r' x y ↔
      Relation.ReflTransGen r x y ∨
        Relation.ReflTransGen r x u ∧ ∃ v, T v ∧ Relation.ReflTransGen r v y := by
  have hmono : ∀ b c, Relation.ReflTransGen r b c → Relation.ReflTransGen r' b c :=
    Relation.ReflTransGen.mono fun b c hbc => (h b c).mpr (.inl hbc)
  constructor
  · intro hxy
    induction hxy with
    | refl => exact .inl .refl
    | tail _ hyz ih =>
      rcases (h _ _).mp hyz with hr | ⟨rfl, hT⟩
      · rcases ih with hxy | ⟨hxu, v, hT, hvy⟩
        · exact .inl (hxy.tail hr)
        · exact .inr ⟨hxu, v, hT, hvy.tail hr⟩
      · -- the last edge is one of those more, however the first element was left
        have hxu : Relation.ReflTransGen r x _ := ih.elim (fun hxu => hxu) And.left
        exact .inr ⟨hxu, _, hT, .refl⟩
  · rintro (hxy | ⟨hxu, v, hT, hvy⟩)
    · exact hmono x y hxy
    · have huv : r' u v := (h u v).mpr (.inr ⟨rfl, hT⟩)
      exact ((hmono x u hxu).tail huv).trans (hmono v y hvy)

/-! ### Steps that run nothing -/

/-- A process with a step that runs nothing. -/
def CwlProcess.detach (k : ℕ) (q : CwlProcess) : CwlProcess :=
  { q with steps := q.steps.modify k fun s => { s with run := .unspecified } }

namespace Package

/-- A package with a step that runs nothing, in the process at a place. -/
def detach (k : ℕ) (a : Place) (p : Package) : Package :=
  { p with
    document := { p.document with
      processes := changeAt (CwlProcess.detach k) a p.document.processes } }

/-- In a process of a package a step refers to a name in the document at `base`, and another
package is like it but that this step runs nothing. -/
structure Detached (p p₀ : Package) (a : Place) (k : ℕ) (base name : String) : Prop where
  /-- The location of a document has no hash. -/
  noHash : '#' ∉ base.toList
  /-- The step refers to the name at the location. -/
  step : ∃ q s, processAt p.processes a = some q ∧ q.steps[k]? = some s ∧
    s.run = .reference (base ++ "#" ++ name)
  /-- Everything else is the same. -/
  processes : p₀.processes = changeAt (CwlProcess.detach k) a p.processes

end Package

theorem localName_append {base : String} (h : '#' ∉ base.toList) (name : String) :
    localName (base ++ "#" ++ name) = name := by
  have hlist : (base ++ "#" ++ name).toList = base.toList ++ '#' :: name.toList := by simp
  rw [localName, hlist, afterHash_append h, String.ofList_toList]

namespace CwlProcess

variable {q : CwlProcess} {k : ℕ} {s : Step} {locator : String}

theorem face_detach (q : CwlProcess) : (q.detach k).face = q.face := rfl

/-- A step that refers to a process declares none. -/
theorem keepsInPlace_detach (hs : q.steps[k]? = some s) (hrun : s.run = .reference locator) :
    KeepsInPlace (detach k) q := by
  intro i
  rw [child?, child?, detach, List.getElem?_modify]
  by_cases hk : k = i
  · subst hk
    simp [hs, hrun, Target.inline?]
  · simp [hk]

/-- A process refers to what the step refers to, and to what it refers to without the step. -/
theorem mem_references_iff_detach (hs : q.steps[k]? = some s) (hrun : s.run = .reference locator)
    {l : String} : l ∈ q.references ↔ l ∈ (q.detach k).references ∨ l = locator := by
  have hother : ∀ {i}, k ≠ i → (q.detach k).steps[i]? = q.steps[i]? := by
    intro i hi
    simp [detach, hi]
  have hself : ∀ t, (q.detach k).steps[k]? = some t → t.run = .unspecified := by
    intro t ht
    rw [detach, List.getElem?_modify_eq, hs] at ht
    exact congrArg Step.run (Option.some.inj ht).symm
  rw [mem_references, mem_references]
  simp only [List.mem_iff_getElem?]
  constructor
  · rintro ⟨t, ⟨i, hi⟩, ht⟩
    by_cases hk : k = i
    · subst hk
      rw [hs, Option.some.injEq] at hi
      subst hi
      rw [hrun, Target.reference.injEq] at ht
      exact .inr ht.symm
    · exact .inl ⟨t, ⟨i, by rw [hother hk, hi]⟩, ht⟩
  · rintro (⟨t, ⟨i, hi⟩, ht⟩ | rfl)
    · by_cases hk : k = i
      · subst hk
        rw [hself t hi] at ht
        cases ht
      · exact ⟨t, ⟨i, by rw [← hother hk, hi]⟩, ht⟩
    · exact ⟨s, ⟨k, hs⟩, hrun⟩

end CwlProcess

/-! ### What the reference leads to -/

namespace Package.Detached

variable {p p₀ : Package} {a b c : Place} {k : ℕ} {base name : String}

variable (h : p.Detached p₀ a k base name)
include h

theorem keepsInPlace : ∀ q, processAt p.processes a = some q →
    CwlProcess.KeepsInPlace (CwlProcess.detach k) q := by
  obtain ⟨r, s, hr, hs, hrun⟩ := h.step
  intro q hq
  rw [hr, Option.some.injEq] at hq
  subst hq
  exact CwlProcess.keepsInPlace_detach hs hrun

theorem faces : p₀.processes.map CwlProcess.face = p.processes.map CwlProcess.face := by
  rw [h.processes]
  exact map_face_changeAt h.keepsInPlace CwlProcess.face_detach

/-- **The edge of the reference** leads to the first process at the top of that name, whatever the
document before it. -/
theorem runs_iff : Runs p.processes b c ↔ Runs p₀.processes b c ∨
    b = a ∧ ∃ j, IsFirst (fun t => t.localId = some name) p.processes j ∧ c = [j] := by
  obtain ⟨q, s, hq, hs, hrun⟩ := h.step
  have hname := localName_append h.noHash name
  rw [h.processes, runs_changeAt_iff h.keepsInPlace CwlProcess.face_detach,
    CwlCompliance.runs_iff, or_assoc]
  refine or_congr_right ?_
  by_cases hb : b = a
  · subst hb
    simp only [hq, Option.some.injEq, exists_eq_left', if_true, true_and]
    simp only [CwlProcess.mem_references_iff_detach hs hrun, or_and_right, exists_or,
      exists_eq_left, hname]
  · simp only [hb, if_false, false_and, or_false]

theorem reaches_iff : Reaches p.processes b c ↔ Reaches p₀.processes b c ∨
    Reaches p₀.processes b a ∧ ∃ j, IsFirst (fun t => t.localId = some name) p.processes j ∧
      Reaches p₀.processes [j] c := by
  have hedge : ∀ b c, Runs p.processes b c ↔ Runs p₀.processes b c ∨
      b = a ∧ ∃ j, IsFirst (fun t => t.localId = some name) p.processes j ∧ c = [j] :=
    fun _ _ => h.runs_iff
  refine (reflTransGen_edge hedge).trans (or_congr_right (and_congr_right fun _ => ?_))
  constructor
  · rintro ⟨_, ⟨j, hj, rfl⟩, hreach⟩
    exact ⟨j, hj, hreach⟩
  · rintro ⟨j, hj, hreach⟩
    exact ⟨[j], ⟨j, hj, rfl⟩, hreach⟩

/-- The same places are taken by tools. -/
theorem exists_tool_iff : (∃ t, processAt p₀.processes b = some t ∧
    t.processClass = .commandLineTool) ↔
      ∃ t, processAt p.processes b = some t ∧ t.processClass = .commandLineTool := by
  rw [h.processes]
  exact exists_face_changeAt_iff (Q := fun x => x.1 = .commandLineTool) h.keepsInPlace
    CwlProcess.face_detach

end Package.Detached

/-! ### What is brought into scope -/

/-- **What a reference into another document brings into scope** is what the first process at the
top of that name reaches, if the step is in scope at all: the name of the document does not matter.
So the tools in scope are the same as if the step ran nothing exactly when no other tool is reached
that way. -/
theorem Package.tools_detached {p p₀ : Package} {a : Place} {k : ℕ} {base name entry : String}
    (h : p.Detached p₀ a k base name)
    (hentry : ∃ w ∈ p.processes, w.processClass = .workflow ∧ w.localId = some entry) :
    ∃ i, IsFirst (fun w => w.processClass = .workflow ∧ w.localId = some entry) p.processes i ∧
      Listed p₀.processes (fun b t => t.processClass = .commandLineTool ∧
        Reaches p₀.processes [i] b) (p₀.select (some entry)).tools ∧
      Listed p.processes (fun b t => t.processClass = .commandLineTool ∧
        (Reaches p₀.processes [i] b ∨ Reaches p₀.processes [i] a ∧
          ∃ j, IsFirst (fun t => t.localId = some name) p.processes j ∧
            Reaches p₀.processes [j] b)) (p.select (some entry)).tools ∧
      (SameOccurrences p.processes p₀.processes (p.select (some entry)).tools
          (p₀.select (some entry)).tools ↔
        (Reaches p₀.processes [i] a →
          ∀ j, IsFirst (fun t => t.localId = some name) p.processes j →
            ∀ b t, processAt p.processes b = some t → t.processClass = .commandLineTool →
              Reaches p₀.processes [j] b → Reaches p₀.processes [i] b)) := by
  obtain ⟨i, hi⟩ := exists_isFirst.mpr hentry
  have htools := (listed_tools_of_isFirst hi).congr
    (Q := fun b t => t.processClass = .commandLineTool ∧
      (Reaches p₀.processes [i] b ∨ Reaches p₀.processes [i] a ∧
        ∃ j, IsFirst (fun t => t.localId = some name) p.processes j ∧
          Reaches p₀.processes [j] b)) fun b t _ => by rw [h.reaches_iff]
  have htools₀ := listed_tools_of_isFirst ((isFirst_isEntry_of_faces h.faces).mpr hi)
  refine ⟨i, hi, htools₀, htools, ?_⟩
  rw [htools.sameOccurrences_iff htools₀ ?_]
  · constructor
    · intro hsame ha j hj b t ht htool hreach
      obtain ⟨-, -, -, hreach₀⟩ := hsame b ⟨t, ht, htool, .inr ⟨ha, j, hj, hreach⟩⟩
      exact hreach₀
    · rintro hnone b ⟨t, ht, htool, hreach⟩
      have hreach₀ : Reaches p₀.processes [i] b := by
        rcases hreach with hreach | ⟨ha, j, hj, hreach⟩
        · exact hreach
        · exact hnone ha j hj b t ht htool hreach
      obtain ⟨t₀, ht₀, htool₀⟩ := h.exists_tool_iff.mpr ⟨t, ht, htool⟩
      exact ⟨t₀, ht₀, htool₀, hreach₀⟩
  · rintro b ⟨t₀, ht₀, htool₀, hreach₀⟩
    obtain ⟨t, ht, htool⟩ := h.exists_tool_iff.mp ⟨t₀, ht₀, htool₀⟩
    exact ⟨t, ht, htool, .inl hreach₀⟩

namespace Package

/-- A workflow that runs another one, which refers into another document, and a tool that happens to
have the name of this reference. -/
def borrowed : Package where
  text := ""
  document :=
    { value := .null
      cwlVersion := none
      namespaces := []
      processes := [bare .workflow "#main" [⟨none, .reference "#sub"⟩],
        bare .workflow "#sub" [⟨none, .reference "lost.cwl"⟩, ⟨none, .reference "other.cwl#tool"⟩],
        bare .commandLineTool "#tool" []] }

theorem detached_borrowed :
    borrowed.Detached (borrowed.detach 1 [1]) [1] 1 "other.cwl" "tool" where
  noHash := by decide
  step := ⟨_, _, rfl, rfl, rfl⟩
  processes := rfl

theorem tools_detached_borrowed :
    borrowed.Detached (borrowed.detach 1 [1]) [1] 1 "other.cwl" "tool" ∧
      (∃ w ∈ borrowed.processes, w.processClass = .workflow ∧ w.localId = some "main") ∧
      (∃ i, Listed borrowed.processes (fun b t => t.processClass = .commandLineTool ∧
        (Reaches (borrowed.detach 1 [1]).processes [i] b ∨
          Reaches (borrowed.detach 1 [1]).processes [i] [1] ∧
            ∃ j, IsFirst (fun t => t.localId = some "tool") borrowed.processes j ∧
              Reaches (borrowed.detach 1 [1]).processes [j] b))
        (borrowed.select (some "main")).tools) ∧
      (borrowed.select (some "main")).tools.map CwlProcess.id = [some "#tool"] := by
  have hentry : ∃ w ∈ borrowed.processes,
      w.processClass = .workflow ∧ w.localId = some "main" := by decide +kernel
  obtain ⟨i, -, -, htools, -⟩ := tools_detached detached_borrowed hentry
  exact ⟨detached_borrowed, hentry, ⟨i, htools⟩, by decide +kernel⟩

/-- A document without identifiers that name a document, and a step that refers into another
document. -/
def foreignText : String :=
  "$graph:\n- class: Workflow\n  id: main\n  steps:\n  - run: \"other.cwl#n\"\n" ++
    "- class: CommandLineTool\n  id: n\n"

/-- **A reference into another document brings a process of this one into scope**: the tool in scope
is none that the step could run, and without the step's target there is none. -/
theorem foreign_reference_in_scope : ∃ p, Package.ofText foreignText = .ok p ∧
    p.processes.map CwlProcess.id = [some "main", some "n"] ∧
    (processAt p.processes [0]).map CwlProcess.references = some ["other.cwl#n"] ∧
    (p.select (some "main")).tools.map CwlProcess.id = [some "n"] ∧
    ((p.detach 0 [0]).select (some "main")).tools.map CwlProcess.id = [] := by
  have hread : (Package.ofText foreignText).toOption.map (fun p => decide
      (p.processes.map CwlProcess.id = [some "main", some "n"] ∧
        (processAt p.processes [0]).map CwlProcess.references = some ["other.cwl#n"] ∧
        (p.select (some "main")).tools.map CwlProcess.id = [some "n"] ∧
        ((p.detach 0 [0]).select (some "main")).tools.map CwlProcess.id = [])) = some true := by
    decide +kernel
  obtain ⟨p, hp, htools⟩ := Option.map_eq_some_iff.mp hread
  exact ⟨p, Reading.toOption_eq_some.mp hp, of_decide_eq_true htools⟩

end Package

end CwlCompliance
