import CwlCompliance.Proofs.Package.Transform
import CwlCompliance.Proofs.Report.Verdict

/-!
# Unknown entry points

An entry point that names no workflow at the top selects nothing.  A rule that goes by what is
selected would have nothing to find fault with, so each of them raises the entry point itself
instead, and the package does not comply.

## Main definitions

* `Rule.scoped` — the rules that go by what is selected.
* `unknownEntryPointIssue` — the issue that an entry point names no workflow.

## Main results

* `Package.issues_of_not_entry` — what is raised under an unknown entry point.
* `Package.message_ne_of_hasEntry` — nothing of the kind is raised under a known one, or under none.
* `Package.entryPoint_surfaced` — **an unknown entry point is always raised, and only that.**
-/

namespace CwlCompliance

/-! ### What is raised -/

/-- The rules that go by what is selected. -/
def Rule.scoped : List Rule := [toolElements, workflowElements, inputElements, metadata]

/-- The wording of an entry point that names no workflow. -/
def unknownEntryPointMessage (name : String) : String :=
  "Entry point '" ++ name ++ "' does not match any Workflow id"

/-- The issue that an entry point names no workflow. -/
def unknownEntryPointIssue (name : String) (rule : Rule) : Issue :=
  ⟨rule, .error, unknownEntryPointMessage name⟩

namespace Package

variable {p : Package} {name : String} {entry : Option String}

theorem issues_of_mem_scoped (h : ¬∃ w ∈ p.processes, IsEntry name w) {rule : Rule}
    (hrule : rule ∈ Rule.scoped) :
    rule.issues p (some name) = [unknownEntryPointIssue name rule] := by
  have hscoped : ∀ found, scopedFindings rule (p.select (some name)) found =
      [.unknownEntryPoint rule name] := by
    intro found
    rw [scopedFindings, select_of_not_entry h]
    rfl
  have hfindings : rule.findings p (p.select (some name)) = [.unknownEntryPoint rule name] := by
    cases rule with
    | documentClasses => exact absurd hrule (by decide)
    | toolElements => exact hscoped _
    | workflowElements => exact hscoped _
    | inputElements => exact hscoped _
    | metadata => exact hscoped _
  rw [Rule.issues, hfindings]
  rfl

/-- What is raised under an unknown entry point: what the rule about classes raises in any case,
and the entry point itself under every other rule. -/
theorem issues_of_not_entry (h : ¬∃ w ∈ p.processes, IsEntry name w) :
    p.issues (some name) =
      Rule.documentClasses.issues p none ++ Rule.scoped.map (unknownEntryPointIssue name) := by
  calc
    p.issues (some name) = Rule.documentClasses.issues p (some name) ++
        Rule.scoped.flatMap fun rule => rule.issues p (some name) := rfl
    _ = Rule.documentClasses.issues p none ++
        Rule.scoped.flatMap fun rule => [unknownEntryPointIssue name rule] := by
      rw [List.flatMap_congr fun rule hrule => issues_of_mem_scoped h hrule]
      rfl
    _ = Rule.documentClasses.issues p none ++
        Rule.scoped.map (unknownEntryPointIssue name) := by rw [List.map_eq_flatMap]

theorem isValid_validate_of_not_entry (h : ¬∃ w ∈ p.processes, IsEntry name w) (source : String)
    (result : Option (Except Fault Outcome)) :
    (p.validate source (some name) result).isValid = false := by
  rw [← Bool.not_eq_true, isValid_validate_iff, forall_harmless_findings_iff,
    missing_select_eq_none_iff]
  rintro ⟨⟨-, hentry, -⟩, -⟩
  exact h (hentry name rfl)

end Package

/-! ### What is not raised -/

theorem head?_toList_append {s : String} {c : Char} (h : s.toList.head? = some c) (t : String) :
    (s ++ t).toList.head? = some c := by
  rw [String.toList_append, List.head?_append, h, Option.some_or]

/-- Other findings start with another letter. -/
theorem Finding.message_ne {f : Finding} (hf : ∀ rule name, f ≠ .unknownEntryPoint rule name)
    (text : String) : f.message ≠ unknownEntryPointMessage text := by
  have hletter : f.message.toList.head? = some 'N' ∨ f.message.toList.head? = some 'M' := by
    cases f with
    | noProcess rule c => exact .inl (head?_toList_append (head?_toList_append rfl _) _)
    | unknownEntryPoint rule name => exact absurd rfl (hf rule name)
    | missing rule owner element =>
      exact .inr (head?_toList_append (head?_toList_append (head?_toList_append rfl _) _) _)
    | missingOptional rule owner element =>
      exact .inr (head?_toList_append (head?_toList_append (head?_toList_append rfl _) _) _)
  have hentry : (unknownEntryPointMessage text).toList.head? = some 'E' :=
    head?_toList_append (head?_toList_append rfl _) _
  intro h
  rw [h, hentry] at hletter
  exact absurd hletter (by decide)

namespace Package

variable {p : Package} {entry : Option String}

/-- Under a known entry point, or under none, no issue is about the entry point. -/
theorem message_ne_of_hasEntry (h : p.HasEntry entry) {i : Issue} (hi : i ∈ p.issues entry)
    (text : String) : i.message ≠ unknownEntryPointMessage text := by
  obtain ⟨rule, -, hi⟩ := List.mem_flatMap.mp hi
  obtain ⟨f, hf, rfl⟩ := List.mem_map.mp hi
  refine Finding.message_ne (fun _ name => ?_) text
  cases hfind : rule.each? with
  | none =>
    cases rule with
    | documentClasses =>
      rcases List.mem_append.mp hf with hf | hf
      all_goals
        split at hf
        · rw [List.mem_singleton.mp hf]
          rintro ⟨⟩
        · exact absurd hf List.not_mem_nil
    | _ => cases hfind
  | some find =>
    rw [Rule.findings_of_each? hfind h] at hf
    obtain ⟨x, -, hf⟩ := List.mem_flatMap.mp hf
    obtain ⟨owner, element, rfl | rfl⟩ := Rule.missing_of_mem_find hfind hf <;> rintro ⟨⟩

/-- **An unknown entry point is always raised, and only that.**  A name that no workflow at the top
has selects nothing: the rule about classes raises what it raises in any case, each other rule
raises the entry point as an error, no tool is found unsupported, and no report is valid, whatever
a structural validator says.  Under a name that a workflow at the top has, or under none, nothing
is raised about the entry point. -/
theorem entryPoint_surfaced (p : Package) :
    (∀ name, (¬∃ w ∈ p.processes, w.processClass = .workflow ∧ w.localId = some name) →
      ((p.select (some name)).workflows = [] ∧ (p.select (some name)).tools = []) ∧
      (p.issues (some name) = Rule.documentClasses.issues p none ++
        [Rule.toolElements, .workflowElements, .inputElements, .metadata].map fun rule =>
          ⟨rule, .error, "Entry point '" ++ name ++ "' does not match any Workflow id"⟩) ∧
      (p.select (some name)).unsupported = [] ∧
      ∀ source result, (p.validate source (some name) result).isValid = false) ∧
    ∀ entry, (∀ name, entry = some name →
        ∃ w ∈ p.processes, w.processClass = .workflow ∧ w.localId = some name) →
      ∀ i ∈ p.issues entry, ∀ text,
        i.message ≠ "Entry point '" ++ text ++ "' does not match any Workflow id" := by
  refine ⟨fun name h => ?_, fun entry h i hi => message_ne_of_hasEntry h hi⟩
  have hselect := select_of_not_entry h
  refine ⟨?_, issues_of_not_entry h, ?_, isValid_validate_of_not_entry h⟩
  · rw [hselect]
    exact ⟨rfl, rfl⟩
  · rw [hselect]
    rfl

/-- A workflow that declares another one in place, and a tool. -/
def nested : Package where
  text := ""
  document :=
    { value := .null
      cwlVersion := none
      namespaces := []
      processes := [bare .workflow "#main" [⟨none, .inline (bare .workflow "#inner" [])⟩],
        bare .commandLineTool "#tool" []] }

/-- The name of a tool, that of a workflow declared in place, and one with its hash are no entry
points. -/
theorem entryPoint_surfaced_nested :
    (∀ name ∈ ["tool", "inner", "#main"], (nested.select (some name)).tools = [] ∧
      nested.issues (some name) = [Rule.toolElements, .workflowElements, .inputElements,
        .metadata].map (fun rule =>
          ⟨rule, .error, "Entry point '" ++ name ++ "' does not match any Workflow id"⟩)) ∧
    ∀ i ∈ nested.issues (some "main"),
      i.message ≠ "Entry point 'main' does not match any Workflow id" := by
  have hclasses : Rule.documentClasses.issues nested none = [] := by decide +kernel
  refine ⟨fun name hname => ?_, fun i hi => ?_⟩
  · have hunknown : ∀ name ∈ ["tool", "inner", "#main"], ¬∃ w ∈ nested.processes,
        w.processClass = .workflow ∧ w.localId = some name := by decide +kernel
    obtain ⟨⟨-, htools⟩, hissues, -⟩ := (entryPoint_surfaced nested).1 name (hunknown name hname)
    rw [hclasses] at hissues
    exact ⟨htools, hissues⟩
  · have hknown : ∀ name, some "main" = some name → ∃ w ∈ nested.processes,
        w.processClass = .workflow ∧ w.localId = some name := by
      rintro _ ⟨⟩
      decide +kernel
    exact (entryPoint_surfaced nested).2 (some "main") hknown i hi "main"

end Package

end CwlCompliance
