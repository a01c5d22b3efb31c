import CwlCompliance.Fault
import CwlCompliance.Process.Basic
import CwlCompliance.Yaml.Error

/-!
# Why a document is no package

Every way in which a text fails to declare processes, one constructor per cause, with the wording
of each.  An `owner` is the text by which a message names the thing at fault.

## Main definitions

* `DockerError` — what is wrong with a Docker requirement.
* `Malformed` — what is wrong with a document.
* `Malformed.fault` — the fault that a malformed document is.
-/

namespace CwlCompliance

/-- What is wrong with the fields of a Docker requirement. -/
inductive DockerError where
  /-- A field that is not a text. -/
  | notText (found : Yaml.Value)
  /-- A key that is not a text. -/
  | keyNotText (found : Yaml.Value)
  /-- A field given twice. -/
  | repeated (field : DockerField)

/-- How a message describes a value of the wrong kind. -/
def describeKind : Yaml.Value → String
  | .null => "unit value"
  | .bool b => "boolean `" ++ (if b then "true" else "false") ++ "`"
  | .number (.integer i) => "integer `" ++ (Yaml.Number.integer i).text ++ "`"
  | .number (.double d) => "floating point `" ++ Yaml.Number.positionalText d ++ "`"
  | .string s => "string \"" ++ s ++ "\""
  | .sequence _ => "sequence"
  | .mapping _ => "map"
  | .tagged .. => "enum"

/-- The wording of an error in a Docker requirement. -/
def DockerError.message : DockerError → String
  | .notText v => "invalid type: " ++ describeKind v ++ ", expected a string"
  | .keyNotText v => "invalid type: " ++ describeKind v ++ ", expected field identifier"
  | .repeated f => "duplicate field `" ++ f.key ++ "`"

/-- Which of the two lists of requirements is meant. -/
inductive RequirementList where
  /-- What a process requires. -/
  | requirements
  /-- What it would like. -/
  | hints
  deriving DecidableEq, Repr

/-- The key of a list of requirements in documents. -/
def RequirementList.key : RequirementList → String
  | requirements => "requirements"
  | hints => "hints"

/-- What is wrong with a document. -/
inductive Malformed where
  /-- The text is not YAML. -/
  | notYaml (cause : Yaml.Error)
  /-- The root is not a mapping. -/
  | rootNotMapping
  /-- The namespaces are not a mapping. -/
  | namespacesNotMapping
  /-- A namespace is not a text, or its key is not. -/
  | namespaceNotText
  /-- The graph is not a list. -/
  | graphNotList
  /-- An item of the graph is not a mapping. -/
  | itemNotMapping (number : Nat)
  /-- A process has no class. -/
  | noClass (owner : String)
  /-- A process has a class that is not one. -/
  | unknownClass (owner name : String)
  /-- An attribute is not a text. -/
  | notText (key owner : String)
  /-- A description holds something that is not a text. -/
  | docNotTexts (owner : String)
  /-- An input in a list is not a mapping. -/
  | inputNotMapping (number : Nat) (owner : String)
  /-- The key of an input is not a text. -/
  | inputKeyNotText (owner : String)
  /-- The inputs are neither a list nor a mapping. -/
  | inputsNotCollection (owner : String)
  /-- A requirement in a list is not a mapping. -/
  | requirementNotMapping (list : RequirementList) (number : Nat) (owner : String)
  /-- A requirement in a list has no class. -/
  | requirementWithoutClass (list : RequirementList) (number : Nat) (owner : String)
  /-- The key of a requirement is not a text. -/
  | requirementKeyNotText (list : RequirementList) (owner : String)
  /-- The fields of a requirement are not a mapping. -/
  | requirementFieldsNotMapping (list : RequirementList) (className owner : String)
  /-- The requirements are neither a list nor a mapping. -/
  | requirementsNotCollection (list : RequirementList) (owner : String)
  /-- A Docker requirement has wrong fields. -/
  | badDocker (list : RequirementList) (owner : String) (cause : DockerError)
  /-- A command holds something that is not a text. -/
  | commandNotTexts (owner : String)
  /-- The command is neither a text nor a list. -/
  | commandNotText (owner : String)
  /-- A step in a list is not a mapping. -/
  | stepNotMapping (number : Nat) (owner : String)
  /-- A step in a mapping is not a mapping. -/
  | stepBodyNotMapping (owner : String)
  /-- The steps are neither a list nor a mapping. -/
  | stepsNotCollection (owner : String)
  /-- What a step runs is neither a reference nor a process. -/
  | badRun (owner : String)

namespace Malformed

/-- A number as messages show it. -/
def numbered (n : Nat) : String := "#" ++ Yaml.Number.digits n

/-- The wording of a cause. -/
def message : Malformed → String
  | notYaml e => "document is not valid YAML: " ++ e.message
  | rootNotMapping => "document root must be a mapping"
  | namespacesNotMapping => "$namespaces must be a mapping of prefix to URI"
  | namespaceNotText => "$namespaces entries must be strings"
  | graphNotList => "$graph must be a sequence of processes"
  | itemNotMapping n => "$graph item " ++ numbered n ++ " must be a mapping"
  | noClass owner => owner ++ " has no 'class' field"
  | unknownClass owner name => owner ++ " has unknown class '" ++ name ++ "'"
  | notText key owner => "'" ++ key ++ "' of " ++ owner ++ " must be a string"
  | docNotTexts owner => "'doc' of " ++ owner ++ " must contain only strings"
  | inputNotMapping n owner => "input " ++ numbered n ++ " of " ++ owner ++ " must be a mapping"
  | inputKeyNotText owner => "input keys of " ++ owner ++ " must be strings"
  | inputsNotCollection owner => "'inputs' of " ++ owner ++ " must be a sequence or a mapping"
  | requirementNotMapping list n owner =>
    list.key ++ " " ++ numbered n ++ " of " ++ owner ++ " must be a mapping"
  | requirementWithoutClass list n owner =>
    list.key ++ " " ++ numbered n ++ " of " ++ owner ++ " has no 'class'"
  | requirementKeyNotText list owner => list.key ++ " keys of " ++ owner ++ " must be class names"
  | requirementFieldsNotMapping list c owner =>
    list.key ++ " '" ++ c ++ "' of " ++ owner ++ " must be a mapping"
  | requirementsNotCollection list owner =>
    "'" ++ list.key ++ "' of " ++ owner ++ " must be a sequence or a mapping"
  | badDocker list owner e =>
    "invalid " ++ dockerClass ++ " in " ++ list.key ++ " of " ++ owner ++ ": " ++ e.message
  | commandNotTexts owner => "'baseCommand' of " ++ owner ++ " must contain only strings"
  | commandNotText owner => "'baseCommand' of " ++ owner ++ " must be a string or a list"
  | stepNotMapping n owner => "step " ++ numbered n ++ " of " ++ owner ++ " must be a mapping"
  | stepBodyNotMapping owner => "steps of " ++ owner ++ " must be mappings"
  | stepsNotCollection owner => "'steps' of " ++ owner ++ " must be a sequence or a mapping"
  | badRun owner => "'run' of " ++ owner ++ " must be a reference or a process"

/-- The code of a cause: one for texts that are not YAML, one for processes without a proper
class, and one for every other wrong shape. -/
def code : Malformed → String
  | notYaml _ => "AP-PARSE-001"
  | noClass _ | unknownClass .. => "AP-PARSE-003"
  | _ => "AP-PARSE-002"

/-- The failure that a malformed document wraps: that of the YAML text. -/
def cause? : Malformed → Option String
  | notYaml e => some e.message
  | _ => none

/-- The fault that a malformed document is. -/
def fault (m : Malformed) : Fault :=
  { category := .parse, code := .given m.code, message := m.message, cause := m.cause? }

end Malformed

end CwlCompliance
