import CwlCompliance.CommandLine.Run
import CwlCompliance.Proofs.Package.Transform
import CwlCompliance.Proofs.Report.Verdict

/-!
# The tools that are not supported

What is not supported comes up four times: in the search over the selected tools, in the fault that
a check of it ends with, in the failure that blocks a report, and, by their names alone, in the
findings about what these tools lack.  All four speak of the same tools, in the same order and
under the same names.

## Main definitions

* `Selection.displayed` — the selected tools, each with how findings name it.
* `Selection.offenders` — those of them that are not supported.

## Main results

* `Package.issues_toolElements_eq` — the rule for tools names them as displayed.
* `Package.listed_offenders` — which tools are not supported.
* `ValidateCommand.filter_blocking_report` — what blocks a run because of them.
* `Package.offenders_agree` — **all four describe the same offenders.**
-/

namespace CwlCompliance

/-! ### The search -/

namespace Selection

/-- The selected tools, each with how findings name it. -/
def displayed (s : Selection) : List (CwlProcess × String) :=
  (s.tools.zipIdx 1).map fun x => (x.1, x.1.display x.2)

/-- Those of the selected tools that use what is not supported, each with how findings name it. -/
def offenders (s : Selection) : List (CwlProcess × String) :=
  s.displayed.filter fun x => x.1.usesUnsupported

theorem map_fst_displayed (s : Selection) : s.displayed.map Prod.fst = s.tools := by
  rw [displayed, List.map_map]
  exact List.zipIdx_map_fst 1 s.tools

theorem map_fst_offenders (s : Selection) :
    s.offenders.map Prod.fst = s.tools.filter CwlProcess.usesUnsupported := by
  rw [← map_fst_displayed, List.filter_map]
  rfl

/-- The search names what is not supported as findings do. -/
theorem unsupported_eq_offenders (s : Selection) : s.unsupported = s.offenders.map Prod.snd := by
  rw [unsupported, offenders, displayed, List.filter_map, List.map_map]
  rfl

/-- A check fails when the search finds something. -/
theorem unsupportedFault?_eq_some_iff {s : Selection} {f : Fault} :
    s.unsupportedFault? = some f ↔ s.unsupported ≠ [] ∧ f = unsupportedFault s.unsupported := by
  rw [unsupportedFault?]
  cases s.unsupported with
  | nil => simp
  | cons name names => simp [eq_comm]

end Selection

/-! ### What the rule for tools says -/

/-- The issues that a tool under a name lacks elements. -/
def missingElements (tool : CwlProcess) (name : String) : List Issue :=
  (ToolElement.all.filter fun e => !e.present tool).map fun e =>
    ⟨.toolElements, .error, "Missing element for " ++ name ++ ": " ++ e.name⟩

namespace Package

variable {p : Package} {entry : Option String}

/-- The rule for tools names the tools as displayed. -/
theorem issues_toolElements_eq (h : p.HasEntry entry) : Rule.toolElements.issues p entry =
    (p.select entry).displayed.flatMap fun x => missingElements x.1 x.2 := by
  have hfind : Rule.toolElements.each? = some toolFindings := rfl
  rw [Rule.issues, Rule.findings_of_each? hfind h, eachFindings, List.map_flatMap,
    Selection.displayed, List.flatMap_map]
  refine List.flatMap_congr fun x _ => ?_
  exact List.map_map

/-- **Which tools are not supported**: those in scope with a Docker requirement, among all their
requirements and hints, that sets the output directory. -/
theorem listed_offenders (p : Package) (entry : Option String) :
    Listed p.processes (fun a t => t.processClass = .commandLineTool ∧
      p.InScopeAt entry .commandLineTool a ∧
      ∃ d, .docker d ∈ t.requirements.getD [] ++ t.hints.getD [] ∧ NotBlank d.outputDirectory)
      ((p.select entry).offenders.map Prod.fst) := by
  have huses : ∀ t : CwlProcess, t.usesUnsupported = true ↔
      ∃ d, .docker d ∈ t.requirements.getD [] ++ t.hints.getD [] ∧
        NotBlank d.outputDirectory := by
    intro t
    rw [← not_iff_not, Bool.not_eq_true, usesUnsupported_eq_false_iff]
    simp only [not_exists, not_and]
    rfl
  rw [Selection.map_fst_offenders]
  refine ((p.listed_select_ofClass entry .commandLineTool).filter _).congr fun a t _ => ?_
  rw [huses, and_assoc]

end Package

/-! ### What a report says -/

theorem StructuralError.code_fault_ne (e : StructuralError) :
    e.fault.code ≠ .given unsupportedCode := by
  cases e <;> simp [fault, unsupportedCode, Fault.ofIo]

/-- What blocks a run because of what is not supported, whatever the structural validator says. -/
theorem ValidateCommand.filter_blocking_report (c : ValidateCommand) (m : Machine)
    (plan : ValidationPlan) (p : Package) :
    ((c.report m plan p).blocking.filter fun f => f.code = .given unsupportedCode) =
      Report.unsupportedFailures (p.select plan.entryPoint).unsupported := by
  have hkept : ∀ names, (Report.unsupportedFailures names).filter
      (fun f => f.code = .given unsupportedCode) = Report.unsupportedFailures names := by
    intro names
    cases names <;> rfl
  rw [report, Package.blocking_validate, List.filter_append, hkept]
  refine (congrArg _ ?_).trans (List.append_nil _)
  match structuralResult m plan p with
  | none => rfl
  | some (.ok o) => rfl
  | some (.error e) =>
    refine List.filter_cons_of_neg ?_
    rw [decide_eq_true_eq]
    exact e.code_fault_ne

/-- **All four describe the same offenders.**  The tools with an output directory of their own are
listed once each and in the order of the document, under the names that the rule for tools gives
them; a check fails, and a run is blocked, exactly when there are any, and both give all names. -/
theorem Package.offenders_agree (p : Package) (c : ValidateCommand) (m : Machine)
    (plan : ValidationPlan) :
    let s := p.select plan.entryPoint
    let blocked := (c.report m plan p).blocking.filter fun f =>
      f.code = .given "AP-UNSUPPORTED-001"
    (s.displayed.map Prod.fst = s.tools ∧
      (p.HasEntry plan.entryPoint → Rule.toolElements.issues p plan.entryPoint =
        s.displayed.flatMap fun x => missingElements x.1 x.2)) ∧
    (s.offenders.Sublist s.displayed ∧ Listed p.processes (fun a t =>
      t.processClass = .commandLineTool ∧ p.InScopeAt plan.entryPoint .commandLineTool a ∧
      ∃ d, .docker d ∈ t.requirements.getD [] ++ t.hints.getD [] ∧ NotBlank d.outputDirectory)
      (s.offenders.map Prod.fst)) ∧
    s.unsupported = s.offenders.map Prod.snd ∧
    ((s.unsupportedFault? ≠ none ↔ s.unsupported ≠ []) ∧
      (blocked ≠ [] ↔ s.unsupported ≠ [])) ∧
    (∀ f ∈ blocked, f.nodes = s.unsupported) ∧
    ∀ f, s.unsupportedFault? = some f → f.code = .given "AP-UNSUPPORTED-001" ∧
      f.details.get? "nodes" = some (", ".intercalate s.unsupported) := by
  intro s blocked
  have hblocked : blocked = Report.unsupportedFailures s.unsupported :=
    c.filter_blocking_report m plan p
  refine ⟨⟨s.map_fst_displayed, issues_toolElements_eq⟩,
    ⟨List.filter_sublist, p.listed_offenders plan.entryPoint⟩, s.unsupported_eq_offenders,
    ⟨?_, ?_⟩, ?_, ?_⟩
  · rw [Option.ne_none_iff_exists']
    simp only [Selection.unsupportedFault?_eq_some_iff]
    simp
  · rw [hblocked, ne_eq, Report.unsupportedFailures_eq_nil_iff]
  · rw [hblocked]
    intro f hf
    cases hnames : s.unsupported with
    | nil =>
      rw [hnames] at hf
      exact absurd hf List.not_mem_nil
    | cons name names =>
      rw [hnames] at hf
      rw [List.mem_singleton.mp hf]
      rfl
  · rintro f hf
    rw [(Selection.unsupportedFault?_eq_some_iff.mp hf).2]
    exact ⟨rfl, rfl⟩

namespace Package

/-- A tool with Docker requirements and hints. -/
def dockerTool (id : String) (requirements hints : List Docker) : CwlProcess :=
  ⟨.commandLineTool, some id, none, none, none, some (requirements.map .docker),
    some (hints.map .docker), none, [], []⟩

/-- Three tools: one that sets the output directory in a hint after an image, under an odd name, one
that gives a blank directory, and one without a name. -/
def dockerTools : Package where
  text := ""
  document :=
    { value := .null
      cwlVersion := none
      namespaces := []
      processes :=
        [ dockerTool "#one, two" [{ pull := some "image" }] [{ outputDirectory := some "/out" }]
        , dockerTool "#three" [{ outputDirectory := some " " }] []
        , dockerTool "#" [{}, { outputDirectory := some "/out" }] [] ] }

theorem offenders_agree_dockerTools :
    let s := dockerTools.select none
    let r := ValidateCommand.report { source := "-" } { files := { entries := [] } }
      ⟨none, .text, none⟩ dockerTools
    s.offenders.map Prod.snd = ["CommandLineTool 'one, two'", "CommandLineTool #3"] ∧
      (∃ f ∈ r.blocking, f.code = .given "AP-UNSUPPORTED-001" ∧
        f.nodes = ["CommandLineTool 'one, two'", "CommandLineTool #3"]) ∧
      ∀ f, s.unsupportedFault? = some f →
        f.details.get? "nodes" = some "CommandLineTool 'one, two', CommandLineTool #3" := by
  intro s r
  obtain ⟨-, -, hnames, ⟨-, hblocked⟩, hnodes, hfault⟩ := offenders_agree dockerTools
    { source := "-" } { files := { entries := [] } } ⟨none, .text, none⟩
  have hunsupported : s.unsupported = ["CommandLineTool 'one, two'", "CommandLineTool #3"] := by
    decide +kernel
  obtain ⟨f, hf⟩ := List.exists_mem_of_ne_nil _
    (hblocked.mpr (hunsupported ▸ List.cons_ne_nil _ _))
  obtain ⟨hmem, hcode⟩ := List.mem_filter.mp hf
  refine ⟨hnames.symm.trans hunsupported,
    ⟨f, hmem, of_decide_eq_true hcode, (hnodes f hf).trans hunsupported⟩, fun f hf => ?_⟩
  exact (hfault f hf).2.trans (congrArg (fun names => some (", ".intercalate names)) hunsupported)

end Package

end CwlCompliance
