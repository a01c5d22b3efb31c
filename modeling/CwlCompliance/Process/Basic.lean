import CwlCompliance.Text.Blank
import CwlCompliance.Yaml.Value

/-!
# Processes

The processes that a CWL document declares, with the attributes that the rules look at.  An
attribute that a rule tests for presence is an `Option`: `none` says that the document leaves it
out or gives null.

## Main definitions

* `localName`, `shortName` — the parts of an identifier that are compared and shown.
* `ProcessClass`, `CwlProcess`, `Step`, `Target` — a process and the processes its steps run.
* `Requirement`, `Docker` — what a process asks of its environment.
* `ProvenanceField`, `Provenance` — the metadata of a workflow.
* `CwlProcess.occurrences` — a process and those declared inside it, in document order.
-/

namespace CwlCompliance

/-! ### Identifiers -/

/-- The characters after the first hash, or all of them when there is none. -/
def afterHash (cs : List Char) : List Char :=
  match cs.dropWhile (· ≠ '#') with
  | [] => cs
  | _ :: rest => rest

/-- The characters after the last slash, or all of them when there is none. -/
def afterSlash (cs : List Char) : List Char := (cs.reverse.takeWhile (· ≠ '/')).reverse

/-- The local name of an identifier: what follows its first hash, or the whole of it. -/
def localName (id : String) : String := String.ofList (afterHash id.toList)

/-- The short name of an identifier: the last segment of its local name. -/
def shortName (id : String) : String := String.ofList (afterSlash (afterHash id.toList))

/-! ### Attributes -/

/-- The classes of process that a document may declare. -/
inductive ProcessClass where
  /-- A process made of steps. -/
  | workflow
  /-- A process that runs a command. -/
  | commandLineTool
  /-- A process that evaluates an expression. -/
  | expressionTool
  /-- A process of which only the interface is known. -/
  | operation
  deriving DecidableEq, Repr

namespace ProcessClass

/-- All classes. -/
def all : List ProcessClass := [workflow, commandLineTool, expressionTool, operation]

/-- The name of a class in documents and messages. -/
def name : ProcessClass → String
  | workflow => "Workflow"
  | commandLineTool => "CommandLineTool"
  | expressionTool => "ExpressionTool"
  | operation => "Operation"

/-- The class that a name is of. -/
def ofName? (s : String) : Option ProcessClass := all.find? fun c => c.name == s

end ProcessClass

/-- An input of a process. -/
structure Input where
  /-- Its identifier. -/
  id : Option String
  /-- Its title. -/
  label : Option String
  /-- Its description. -/
  doc : Option String
  deriving DecidableEq, Repr

/-- The fields of a Docker requirement. -/
inductive DockerField where
  /-- The image to pull. -/
  | pull
  /-- The image to load. -/
  | load
  /-- The recipe to build the image from. -/
  | file
  /-- The image to import. -/
  | importSource
  /-- The name of the image. -/
  | imageId
  /-- The directory in the container for output. -/
  | outputDirectory
  deriving DecidableEq, Repr

namespace DockerField

/-- All fields. -/
def all : List DockerField := [pull, load, file, importSource, imageId, outputDirectory]

/-- The key of a field in documents. -/
def key : DockerField → String
  | pull => "dockerPull"
  | load => "dockerLoad"
  | file => "dockerFile"
  | importSource => "dockerImport"
  | imageId => "dockerImageId"
  | outputDirectory => "dockerOutputDirectory"

/-- The field with a key. -/
def ofKey? (s : String) : Option DockerField := all.find? fun f => f.key == s

end DockerField

/-- A Docker requirement: the text of each field that is given. -/
structure Docker where
  /-- The image to pull. -/
  pull : Option String := none
  /-- The image to load. -/
  load : Option String := none
  /-- The recipe to build the image from. -/
  file : Option String := none
  /-- The image to import. -/
  importSource : Option String := none
  /-- The name of the image. -/
  imageId : Option String := none
  /-- The directory in the container for output. -/
  outputDirectory : Option String := none
  deriving DecidableEq, Repr

namespace Docker

/-- The text of a field. -/
def get (d : Docker) : DockerField → Option String
  | .pull => d.pull
  | .load => d.load
  | .file => d.file
  | .importSource => d.importSource
  | .imageId => d.imageId
  | .outputDirectory => d.outputDirectory

/-- The requirement with a field set. -/
def set (d : Docker) (f : DockerField) (v : Option String) : Docker :=
  match f with
  | .pull => { d with pull := v }
  | .load => { d with load := v }
  | .file => { d with file := v }
  | .importSource => { d with importSource := v }
  | .imageId => { d with imageId := v }
  | .outputDirectory => { d with outputDirectory := v }

/-- Whether a text is given and is not blank. -/
def isGiven (s : Option String) : Bool := s.any fun s => !Text.isBlank s

/-- Whether an image to pull is given. -/
def hasPull (d : Docker) : Bool := isGiven d.pull

/-- Whether an output directory is given. -/
def hasOutputDirectory (d : Docker) : Bool := isGiven d.outputDirectory

end Docker

/-- The class of a Docker requirement. -/
def dockerClass : String := "DockerRequirement"

/-- A requirement or hint: a Docker requirement, or another one as the document gives it. -/
inductive Requirement where
  /-- A Docker requirement. -/
  | docker (d : Docker)
  /-- Another requirement, with its fields. -/
  | other (className : String) (fields : Yaml.Entries)

namespace Requirement

/-- The class of a requirement. -/
def className : Requirement → String
  | docker _ => dockerClass
  | other c _ => c

/-- The Docker requirement that a requirement is. -/
def docker? : Requirement → Option Docker
  | docker d => some d
  | other .. => none

end Requirement

/-- The metadata that a workflow may carry. -/
inductive ProvenanceField where
  /-- The version of the package. -/
  | version
  /-- Who wrote it. -/
  | author
  /-- How to cite it. -/
  | citation
  /-- Where its code is kept. -/
  | codeRepository
  /-- Who contributed to it. -/
  | contributor
  /-- When it was made. -/
  | dateCreated
  /-- The words to find it by. -/
  | keywords
  /-- The terms of its use. -/
  | license
  /-- What changed in this release. -/
  | releaseNotes
  deriving DecidableEq, Repr

namespace ProvenanceField

/-- The fields whose absence is only a hint, in the order in which they are reported. -/
def optional : List ProvenanceField :=
  [author, citation, codeRepository, contributor, dateCreated, keywords, license, releaseNotes]

/-- All fields, the required one first. -/
def all : List ProvenanceField := version :: optional

/-- The name of a field. -/
def name : ProvenanceField → String
  | version => "version"
  | author => "author"
  | citation => "citation"
  | codeRepository => "codeRepository"
  | contributor => "contributor"
  | dateCreated => "dateCreated"
  | keywords => "keywords"
  | license => "license"
  | releaseNotes => "releaseNotes"

/-- The unqualified names under which a field may be given, the first that is given winning. -/
def spellings : ProvenanceField → List String
  | version => ["version", "softwareVersion"]
  | f => [f.name]

end ProvenanceField

/-- The metadata of a workflow: the fields that are given, with their values. -/
abbrev Provenance := List (ProvenanceField × Yaml.Value)

namespace Provenance

/-- The value of a field. -/
def get? (p : Provenance) (f : ProvenanceField) : Option Yaml.Value := p.lookup f

/-- Whether a field is given. -/
def has (p : Provenance) (f : ProvenanceField) : Bool := (p.get? f).isSome

end Provenance

/-! ### Processes -/

mutual

/-- A process that a document declares, at its top or inside a step. -/
structure CwlProcess where
  /-- Its class. -/
  processClass : ProcessClass
  /-- Its identifier as the document gives it. -/
  id : Option String
  /-- Its title. -/
  label : Option String
  /-- Its description. -/
  doc : Option String
  /-- Its inputs. -/
  inputs : Option (List Input)
  /-- What it requires. -/
  requirements : Option (List Requirement)
  /-- What it would like. -/
  hints : Option (List Requirement)
  /-- The command that it runs. -/
  baseCommand : Option (List String)
  /-- The steps of a workflow. -/
  steps : List Step
  /-- The metadata of a workflow. -/
  provenance : Provenance

/-- A step of a workflow. -/
structure Step where
  /-- Its identifier. -/
  id : Option String
  /-- What it runs. -/
  run : Target

/-- What a step runs. -/
inductive Target where
  /-- Nothing is said. -/
  | unspecified
  /-- A process declared elsewhere. -/
  | reference (locator : String)
  /-- A process declared in place. -/
  | inline (process : CwlProcess)

end

namespace CwlProcess

/-- The local name of a process's identifier. -/
def localId (p : CwlProcess) : Option String := p.id.map localName

/-- The local name of a process's identifier, if it is not empty. -/
def properId (p : CwlProcess) : Option String := p.localId.filter fun s => !s.isEmpty

/-- Whether a process is a workflow. -/
def isWorkflow (p : CwlProcess) : Bool := p.processClass = .workflow

/-- Whether a process is a command line tool. -/
def isTool (p : CwlProcess) : Bool := p.processClass = .commandLineTool

/-- The requirements of a process followed by its hints. -/
def effectiveRequirements (p : CwlProcess) : List Requirement :=
  p.requirements.getD [] ++ p.hints.getD []

/-- The Docker requirements of a process, requirements before hints. -/
def dockers (p : CwlProcess) : List Docker := p.effectiveRequirements.filterMap Requirement.docker?

/-- The Docker requirement that counts: the first. -/
def docker? (p : CwlProcess) : Option Docker := p.dockers.head?

mutual

/-- A process and the processes declared inside it, each before those inside it. -/
def occurrences : CwlProcess → List CwlProcess
  | p@⟨_, _, _, _, _, _, _, _, steps, _⟩ => p :: stepOccurrences steps

/-- The processes declared inside steps. -/
def stepOccurrences : List Step → List CwlProcess
  | [] => []
  | ⟨_, target⟩ :: rest => targetOccurrences target ++ stepOccurrences rest

/-- The processes declared in place of a target. -/
def targetOccurrences : Target → List CwlProcess
  | .unspecified => []
  | .reference _ => []
  | .inline p => occurrences p

end

end CwlProcess

end CwlCompliance
