import CwlCompliance.Checks.Finding
import CwlCompliance.Fault

/-!
# What platforms do not support

A tool that sets the output directory of its container cannot be run by the platforms that
packages are made for.  Any Docker requirement of the tool may do so, not only the one that counts
for the image.

## Main definitions

* `Selection.unsupported` — the names of the tools that do so.
* `unsupportedFault` — the fault that they are.
-/

namespace CwlCompliance

/-- The name of the construct that is not supported. -/
def unsupportedConstruct : String := DockerField.outputDirectory.key

/-- The code of a fault about constructs that are not supported. -/
def unsupportedCode : String := "AP-UNSUPPORTED-001"

/-- What is said about the construct. -/
def unsupportedMessage : String :=
  "Requirement '" ++ unsupportedConstruct ++ "' is not supported in " ++ dockerClass

/-- Whether a tool uses the construct. -/
def CwlProcess.usesUnsupported (p : CwlProcess) : Bool := p.dockers.any Docker.hasOutputDirectory

/-- The names of the selected tools that use the construct. -/
def Selection.unsupported (s : Selection) : List String :=
  ((s.tools.zipIdx 1).filter fun (p, _) => p.usesUnsupported).map fun (p, n) => p.display n

/-- What is said about a tool that uses the construct. -/
def unsupportedNote (name : String) : String := name ++ ": " ++ unsupportedMessage

/-- The fault that tools with these names use the construct. -/
def unsupportedFault (names : List String) : Fault :=
  { category := .unsupportedConstruct
    code := .given unsupportedCode
    message := unsupportedMessage
    details := [("nodes", ", ".intercalate names)]
    hints := ["remove dockerOutputDirectory and write outputs to the default working directory"] }

/-- The fault that selected tools use the construct, if any do. -/
def Selection.unsupportedFault? (s : Selection) : Option Fault :=
  match s.unsupported with
  | [] => none
  | names => some (unsupportedFault names)

end CwlCompliance
