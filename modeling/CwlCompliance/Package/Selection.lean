import CwlCompliance.Process.CallGraph
import CwlCompliance.Process.Document

/-!
# Packages and what a check looks at

A package is a text together with what it declares.  A check looks at a selection from it: without
an entry point at every workflow at the top and every tool anywhere, with one at the workflow of
that name and the tools that it reaches.

## Main definitions

* `Package`, `Package.ofText` — a package and how it is read.
* `Package.find?` — the position of the workflow with a name.
* `Scope`, `Selection`, `Package.select` — what an entry point selects.
-/

namespace CwlCompliance

/-- A package: its text and what the text declares. -/
structure Package where
  /-- The text as it was read. -/
  text : String
  /-- What it declares. -/
  document : Document

/-- The positions in a list of the elements with a property, when the first has position `n`. -/
def positionsFrom {α : Type} (p : α → Bool) (n : Nat) : List α → List Nat
  | [] => []
  | a :: rest => if p a then n :: positionsFrom p (n + 1) rest else positionsFrom p (n + 1) rest

namespace Package

/-- The package that a text declares. -/
def ofText (text : String) : Except Malformed Package := do
  return { text, document := ← Document.ofText text }

/-- The processes at the top of a package, in order. -/
def processes (p : Package) : List CwlProcess := p.document.processes

/-- Where the workflows stand among the processes at the top. -/
def workflowPositions (p : Package) : List Nat := positionsFrom CwlProcess.isWorkflow 0 p.processes

/-- Where the tools stand among the processes at the top. -/
def toolPositions (p : Package) : List Nat := positionsFrom CwlProcess.isTool 0 p.processes

/-- The processes at some positions. -/
def processesAt (p : Package) (positions : List Nat) : List CwlProcess :=
  positions.filterMap fun n => p.processes[n]?

/-- The workflows at the top, in order. -/
def workflows (p : Package) : List CwlProcess := p.processesAt p.workflowPositions

/-- The tools at the top, in order. -/
def tools (p : Package) : List CwlProcess := p.processesAt p.toolPositions

/-- The position of the first workflow at the top with this local name. -/
def find? (p : Package) (name : String) : Option Nat :=
  p.workflowPositions.find? fun n => (p.processes[n]?.bind CwlProcess.localId) == some name

/-- Which process of a package runs which. -/
def callGraph (p : Package) : CallGraph := .ofProcesses p.processes

end Package

/-- What an entry point makes of a package. -/
inductive Scope where
  /-- No entry point was given: everything counts. -/
  | everything
  /-- The entry point names a workflow: it and what it reaches counts. -/
  | entry (name : String) (workflow : CwlProcess)
  /-- The entry point names no workflow: nothing counts. -/
  | unknown (name : String)

namespace Scope

/-- The entry point that was given. -/
def entryPoint : Scope → Option String
  | everything => none
  | entry name _ => some name
  | unknown name => some name

/-- The entry point that was given and names no workflow. -/
def missing : Scope → Option String
  | unknown name => some name
  | _ => none

/-- The workflow that the entry point names. -/
def workflow : Scope → Option CwlProcess
  | entry _ w => some w
  | _ => none

end Scope

/-- The processes that a check looks at. -/
structure Selection where
  /-- What was asked for. -/
  scope : Scope
  /-- The workflows to look at, in order. -/
  workflows : List CwlProcess
  /-- The tools to look at, in order. -/
  tools : List CwlProcess

/-- The node of the process at a position at the top of a package. -/
def Package.node? (p : Package) (position : Nat) : Option (Nat × CwlProcess) :=
  (CallGraph.numbered 0 p.processes)[position]?

/-- What an entry point selects. -/
def Package.select (p : Package) (entryPoint : Option String) : Selection :=
  match entryPoint with
  | none => { scope := .everything, workflows := p.workflows, tools := p.callGraph.tools }
  | some name =>
    match (p.find? name).bind p.node? with
    | none => { scope := .unknown name, workflows := [], tools := [] }
    | some (node, workflow) =>
      { scope := .entry name workflow
        workflows := [workflow]
        tools := p.callGraph.toolsFrom node }

end CwlCompliance
