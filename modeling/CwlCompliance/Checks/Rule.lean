import CwlCompliance.Text.Blank

/-!
# Rules and issues

The rules of the profile that a package is held to, and the issues that are raised under them.
Only issues that are errors count against a package.

## Main definitions

* `Rule` — the five rules, with `Rule.name`, `Rule.description` and `Rule.ofText`.
* `Issue` — what is raised under a rule, with `Issue.text`.
-/

namespace CwlCompliance

/-- The rules of the profile. -/
inductive Rule where
  /-- The document declares a workflow and a tool. -/
  | documentClasses
  /-- Tools have the required elements. -/
  | toolElements
  /-- Workflows have the required elements. -/
  | workflowElements
  /-- Inputs of workflows have the required elements. -/
  | inputElements
  /-- Workflows carry metadata. -/
  | metadata
  deriving DecidableEq, Repr

namespace Rule

/-- All rules, in the order in which they are checked. -/
def all : List Rule := [documentClasses, toolElements, workflowElements, inputElements, metadata]

/-- The name of a rule in the profile. -/
def name : Rule → String
  | documentClasses => "req-7"
  | toolElements => "req-8"
  | workflowElements => "req-9"
  | inputElements => "req-10"
  | metadata => "req-11"

/-- The wording of a rule in the profile. -/
def description : Rule → String
  | documentClasses =>
    "The Application Package SHALL be a valid CWL document with a \"Workflow\" class and one or " ++
      "more \"CommandLineTool\" classes"
  | toolElements =>
    "The Application Package CWL CommandLineTool classes SHALL contain the following elements: " ++
      "Identifier (\"id\"); Command line name (\"baseCommand\"); Input parameters (\"inputs\"); " ++
      "Environment requirements (\"requirements\"); Docker information (\"DockerRequirement\")"
  | workflowElements =>
    "The Application Package CWL Workflow class SHALL contain the following elements: " ++
      "Identifier (\"id\"); Title (\"label\"); Abstract (\"doc\")"
  | inputElements =>
    "The Application Package CWL Workflow class \"inputs\" fields SHALL contain the following " ++
      "elements: Identifier (\"id\"); Title (\"label\"); Abstract (\"doc\")"
  | metadata =>
    "The Application Package CWL Workflow classes SHALL include additional metadata " ++
      "(\"author\", \"citation\", \"codeRepository\", \"contributor\", \"dateCreated\", " ++
      "\"keywords\", \"license\", \"releaseNotes\", \"version\")"

/-- The rule that a text names; case and surrounding white space do not matter. -/
def ofText? (s : String) : Option Rule :=
  all.find? fun r => Text.sameIgnoringCase r.name (Text.trim s)

/-- The names of all rules, as messages list them. -/
def nameList : String := ", ".intercalate (all.map name)

/-- The message for a text that names no rule, when these are the names. -/
def unknownMessage (s names : String) : String :=
  "unknown rule '" ++ s ++ "'; supported values are " ++ names

/-- The rule that a text names, or the message that it names none. -/
def ofText (s : String) : Except String Rule :=
  match ofText? s with
  | some r => .ok r
  | none => .error (unknownMessage s nameList)

end Rule

/-- How much an issue counts. -/
inductive IssueSeverity where
  /-- The package does not comply. -/
  | error
  /-- The package could be better. -/
  | hint
  deriving DecidableEq, Repr

/-- The name of a severity. -/
def IssueSeverity.name : IssueSeverity → String
  | error => "error"
  | hint => "hint"

/-- What is raised under a rule. -/
structure Issue where
  /-- The rule. -/
  rule : Rule
  /-- How much it counts. -/
  severity : IssueSeverity
  /-- What is wrong. -/
  message : String
  deriving DecidableEq, Repr

namespace Issue

/-- Whether an issue counts against the package. -/
def isError (i : Issue) : Bool := i.severity = .error

/-- The text of an issue with its rule. -/
def text (i : Issue) : String :=
  i.severity.name ++ " [" ++ i.rule.name ++ "] " ++ i.message

/-- The line of an issue in a listing by rule. -/
def line (i : Issue) : String := "  " ++ i.severity.name ++ ": " ++ i.message ++ "\n"

end Issue

end CwlCompliance
