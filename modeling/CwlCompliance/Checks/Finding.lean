import CwlCompliance.Checks.Rule
import CwlCompliance.Package.Selection

/-!
# What the rules find

Each rule asks for elements, and each element is a test on what should have it.  A rule finds
what is missing, in the order of the processes and, for one process, in the order of the elements.

## Main definitions

* `ToolElement`, `WorkflowElement`, `InputElement` — the elements that are asked for.
* `CwlProcess.display`, `Input.display` — how findings name what lacks an element.
* `Finding` — what is missing, with its wording.
* `Rule.findings`, `Rule.issues`, `Package.issues` — what the rules find in a package.
-/

namespace CwlCompliance

/-! ### Elements -/

/-- The elements that a tool should have. -/
inductive ToolElement where
  /-- A name. -/
  | id
  /-- The command that it runs. -/
  | baseCommand
  /-- Its inputs. -/
  | inputs
  /-- Its requirements. -/
  | requirements
  /-- The image to pull, in the Docker requirement that counts. -/
  | image
  deriving DecidableEq, Repr

namespace ToolElement

/-- All elements of a tool. -/
def all : List ToolElement := [id, baseCommand, inputs, requirements, image]

/-- The name of an element in findings. -/
def name : ToolElement → String
  | id => "id"
  | baseCommand => "baseCommand"
  | inputs => "inputs"
  | requirements => "requirements"
  | image => "requirements.DockerRequirement.dockerPull or hints.DockerRequirement.dockerPull"

/-- Whether a tool has an element. -/
def present (p : CwlProcess) : ToolElement → Bool
  | id => p.properId.isSome
  | baseCommand => p.baseCommand.isSome
  | inputs => p.inputs.isSome
  | requirements => p.requirements.isSome
  | image => p.docker?.any Docker.hasPull

end ToolElement

/-- The elements that a workflow should have. -/
inductive WorkflowElement where
  /-- A name. -/
  | id
  /-- A title. -/
  | label
  /-- A description. -/
  | doc
  deriving DecidableEq, Repr

namespace WorkflowElement

/-- All elements of a workflow. -/
def all : List WorkflowElement := [id, label, doc]

/-- The name of an element in findings. -/
def name : WorkflowElement → String
  | id => "id"
  | label => "label"
  | doc => "doc"

/-- Whether a workflow has an element. -/
def present (p : CwlProcess) : WorkflowElement → Bool
  | id => p.properId.isSome
  | label => p.label.isSome
  | doc => p.doc.isSome

end WorkflowElement

/-- The short name of an input, if it is not empty. -/
def Input.properName (i : Input) : Option String := (i.id.map shortName).filter fun s => !s.isEmpty

/-- The elements that an input of a workflow should have. -/
inductive InputElement where
  /-- A name. -/
  | id
  /-- A title. -/
  | label
  /-- A description. -/
  | doc
  deriving DecidableEq, Repr

namespace InputElement

/-- All elements of an input. -/
def all : List InputElement := [id, label, doc]

/-- The name of an element in findings. -/
def name : InputElement → String
  | id => "id"
  | label => "label"
  | doc => "doc"

/-- Whether an input has an element. -/
def present (i : Input) : InputElement → Bool
  | id => i.properName.isSome
  | label => i.label.isSome
  | doc => i.doc.isSome

end InputElement

/-! ### Names in findings -/

/-- How findings name a process: by class and local name, or by its number where it has none. -/
def CwlProcess.display (p : CwlProcess) (number : Nat) : String :=
  match p.properId with
  | some id => p.processClass.name ++ " '" ++ id ++ "'"
  | none => p.processClass.name ++ " #" ++ toString number

/-- How findings name an input: by short name, or by its number where it has none. -/
def Input.display (i : Input) (number : Nat) : String :=
  match i.properName with
  | some id => "input '" ++ id ++ "'"
  | none => "input #" ++ toString number

/-! ### Findings -/

/-- What a rule finds.  Every finding says which rule it is made under. -/
inductive Finding where
  /-- The document declares no process of a class. -/
  | noProcess (rule : Rule) (processClass : ProcessClass)
  /-- The entry point names no workflow. -/
  | unknownEntryPoint (rule : Rule) (name : String)
  /-- Something lacks an element that it must have. -/
  | missing (rule : Rule) (owner element : String)
  /-- Something lacks an element that it should have. -/
  | missingOptional (rule : Rule) (owner element : String)
  deriving DecidableEq, Repr

namespace Finding

/-- The rule that a finding is made under. -/
def rule : Finding → Rule
  | noProcess r _ | unknownEntryPoint r _ | missing r .. | missingOptional r .. => r

/-- How much a finding counts. -/
def severity : Finding → IssueSeverity
  | missingOptional .. => .hint
  | _ => .error

/-- The wording of a finding. -/
def message : Finding → String
  | noProcess _ c => "No " ++ c.name ++ " class defined"
  | unknownEntryPoint _ name => "Entry point '" ++ name ++ "' does not match any Workflow id"
  | missing _ owner element => "Missing element for " ++ owner ++ ": " ++ element
  | missingOptional _ owner element => "Missing optional element for " ++ owner ++ ": " ++ element

/-- The issue that a finding is. -/
def issue (f : Finding) : Issue := ⟨f.rule, f.severity, f.message⟩

end Finding

/-- The findings about a tool with a number. -/
def toolFindings (number : Nat) (tool : CwlProcess) : List Finding :=
  (ToolElement.all.filter fun e => !e.present tool).map fun e =>
    .missing .toolElements (tool.display number) e.name

/-- The findings about the elements of a workflow with a number. -/
def workflowFindings (number : Nat) (workflow : CwlProcess) : List Finding :=
  (WorkflowElement.all.filter fun e => !e.present workflow).map fun e =>
    .missing .workflowElements (workflow.display number) e.name

/-- The findings about an input with a number, of something. -/
def inputFindings (owner : String) (number : Nat) (input : Input) : List Finding :=
  (InputElement.all.filter fun e => !e.present input).map fun e =>
    .missing .inputElements (input.display number ++ " of " ++ owner) e.name

/-- The findings about the inputs of a workflow with a number. -/
def workflowInputFindings (number : Nat) (workflow : CwlProcess) : List Finding :=
  ((workflow.inputs.getD []).zipIdx 1).flatMap fun (input, n) =>
    inputFindings (workflow.display number) n input

/-- The finding about a missing field of metadata. -/
def missingField (owner : String) (f : ProvenanceField) : Finding :=
  if f = .version then .missing .metadata owner f.name
  else .missingOptional .metadata owner f.name

/-- The findings about the metadata of a workflow with a number. -/
def metadataFindings (number : Nat) (workflow : CwlProcess) : List Finding :=
  (ProvenanceField.all.filter fun f => !workflow.provenance.has f).map
    (missingField (workflow.display number))

/-- The findings about the classes that a package declares, wherever the entry point leads. -/
def classFindings (p : Package) : List Finding :=
  (if p.workflows.isEmpty then [.noProcess .documentClasses .workflow] else []) ++
    (if p.tools.isEmpty then [.noProcess .documentClasses .commandLineTool] else [])

/-- The findings about processes, numbered from one. -/
def eachFindings (find : Nat → CwlProcess → List Finding) (processes : List CwlProcess) :
    List Finding :=
  (processes.zipIdx 1).flatMap fun (p, n) => find n p

/-- The findings about a selection under a rule; an unknown entry point is the only one where there
is one. -/
def scopedFindings (rule : Rule) (s : Selection) (found : List Finding) : List Finding :=
  match s.scope.missing with
  | some name => [.unknownEntryPoint rule name]
  | none => found

namespace Rule

/-- What a rule finds in a package when this is selected. -/
def findings (p : Package) (s : Selection) : Rule → List Finding
  | documentClasses => classFindings p
  | toolElements => scopedFindings .toolElements s (eachFindings toolFindings s.tools)
  | workflowElements => scopedFindings .workflowElements s (eachFindings workflowFindings s.workflows)
  | inputElements => scopedFindings .inputElements s (eachFindings workflowInputFindings s.workflows)
  | metadata => scopedFindings .metadata s (eachFindings metadataFindings s.workflows)

/-- The issues that a rule raises about a package, given an entry point. -/
def issues (r : Rule) (p : Package) (entryPoint : Option String) : List Issue :=
  (r.findings p (p.select entryPoint)).map Finding.issue

end Rule

/-- The issues that all rules raise about a package, given an entry point. -/
def Package.issues (p : Package) (entryPoint : Option String) : List Issue :=
  Rule.all.flatMap fun r => r.issues p entryPoint

end CwlCompliance
