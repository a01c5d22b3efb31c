import CwlCompliance.Process.Attributes
import CwlCompliance.Yaml.Reader

/-!
# The processes of a document

A document is one process, or a graph of several.  The steps of a workflow may declare further
processes in place.

## Main definitions

* `CwlProcess.ofEntries` — the process that a mapping declares.
* `Document.ofValue`, `Document.ofText` — the processes that a document declares.
-/

namespace CwlCompliance

open Yaml

/-! ### Processes -/

/-- What the whole document says about a process in it. -/
structure Surroundings where
  /-- The declared namespace prefixes, in order. -/
  prefixes : List String
  /-- The root of the document, where metadata may be found that a process leaves out. -/
  root : Option Entries

/-- The text by which messages name a process: its class and its local name, or where it stands. -/
def CwlProcess.describe (c : ProcessClass) (id : Option String) (origin : String) : String :=
  match id with
  | some id => c.name ++ " '" ++ localName id ++ "'"
  | none => c.name ++ " (" ++ origin ++ ")"

/-- The text by which messages name a step. -/
def Step.describe (id : Option String) (owner : String) : String :=
  match id with
  | some id => "step '" ++ shortName id ++ "' of " ++ owner
  | none => "step of " ++ owner

/-- The process that entries declare, given how to read the steps of the process with a name. -/
def CwlProcess.assemble (around : Surroundings) (origin : String) (entries : Entries)
    (steps : String → Except Malformed (List Step)) : Except Malformed CwlProcess := do
  let processClass ← Attributes.processClass entries origin
  let id ← Attributes.text entries "id" origin
  let name := CwlProcess.describe processClass id origin
  let isWorkflow := processClass = .workflow
  let steps ← if isWorkflow then steps name else pure []
  let provenance :=
    if isWorkflow then Provenance.resolve around.prefixes entries around.root else []
  let label ← Attributes.text entries "label" name
  let doc ← Attributes.doc entries name
  let inputs ← Attributes.inputs entries name
  let requirements ← Attributes.requirements .requirements entries name
  let hints ← Attributes.requirements .hints entries name
  let baseCommand ← Attributes.baseCommand entries name
  return { processClass, id, label, doc, inputs, requirements, hints, baseCommand, steps, provenance }

namespace Steps

mutual

/-- The steps of a workflow, from its entries. -/
def ofEntries (prefixes : List String) (owner : String) :
    List (Value × Value) → Except Malformed (List Step)
  | [] => .ok []
  | (key, value) :: rest =>
    if key.isKey "steps" then ofValue prefixes owner value else ofEntries prefixes owner rest

/-- The steps that a value gives: a list or a mapping of them. -/
def ofValue (prefixes : List String) (owner : String) : Value → Except Malformed (List Step)
  | .null => .ok []
  | .sequence items => ofItems prefixes owner 1 items
  | .mapping entries => ofKeyed prefixes owner entries
  | _ => .error (.stepsNotCollection owner)

/-- The steps in a list, numbered from `n`. -/
def ofItems (prefixes : List String) (owner : String) :
    Nat → List Value → Except Malformed (List Step)
  | _, [] => .ok []
  | n, item :: rest => do
    return (← ofItem prefixes owner n item) :: (← ofItems prefixes owner (n + 1) rest)

/-- The step with a number in a list. -/
def ofItem (prefixes : List String) (owner : String) (n : Nat) : Value → Except Malformed Step
  | .tagged _ item => ofItem prefixes owner n item
  | .mapping entries => do
    let id ← Attributes.text entries "id" owner
    return ⟨id, ← targetIn prefixes (Step.describe id owner) entries⟩
  | _ => .error (.stepNotMapping n owner)

/-- The steps in a mapping. -/
def ofKeyed (prefixes : List String) (owner : String) :
    List (Value × Value) → Except Malformed (List Step)
  | [] => .ok []
  | (key, item) :: rest => do
    return (← ofBody prefixes owner key.scalarText? item) :: (← ofKeyed prefixes owner rest)

/-- The step with an identifier in a mapping. -/
def ofBody (prefixes : List String) (owner : String) (id : Option String) :
    Value → Except Malformed Step
  | .tagged _ item => ofBody prefixes owner id item
  | .mapping entries => do
    return ⟨id, ← targetIn prefixes (Step.describe id owner) entries⟩
  | _ => .error (.stepBodyNotMapping owner)

/-- What a step runs, from its entries. -/
def targetIn (prefixes : List String) (owner : String) :
    List (Value × Value) → Except Malformed Target
  | [] => .ok .unspecified
  | (key, value) :: rest =>
    if key.isKey "run" then targetOf prefixes owner value else targetIn prefixes owner rest

/-- What a step runs.  A process declared in place does not see the root of the document. -/
def targetOf (prefixes : List String) (owner : String) : Value → Except Malformed Target
  | .null => .ok .unspecified
  | .string locator => .ok (.reference locator)
  | .mapping entries =>
    .inline <$> CwlProcess.assemble ⟨prefixes, none⟩ owner entries fun name =>
      ofEntries prefixes name entries
  | _ => .error (.badRun owner)

end

end Steps

/-- The process that entries declare. -/
def CwlProcess.ofEntries (around : Surroundings) (origin : String) (entries : Entries) :
    Except Malformed CwlProcess :=
  CwlProcess.assemble around origin entries fun name =>
    Steps.ofEntries around.prefixes name entries

/-! ### Documents -/

/-- What a document declares. -/
structure Document where
  /-- The document as it was read. -/
  value : Value
  /-- The version of CWL that it is written for. -/
  cwlVersion : Option String
  /-- The declared prefixes with their URIs, in order. -/
  namespaces : List (String × String)
  /-- The processes at the top of the document, in order. -/
  processes : List CwlProcess

namespace Document

/-- The namespaces with one more; a prefix that is there already gets the new URI. -/
def addNamespace (ns : List (String × String)) (pre uri : String) : List (String × String) :=
  if ns.any (·.1 == pre) then ns.map fun e => if e.1 == pre then (pre, uri) else e
  else ns ++ [(pre, uri)]

/-- The namespaces that a document declares. -/
def readNamespaces (root : Entries) : Except Malformed (List (String × String)) :=
  match root.get? "$namespaces" with
  | none => .ok []
  | some v =>
    match v.asEntries? with
    | none => .error .namespacesNotMapping
    | some entries =>
      entries.foldlM
        (fun ns (key, uri) =>
          match key.asString?, uri.asString? with
          | some pre, some uri => .ok (addNamespace ns pre uri)
          | _, _ => .error .namespaceNotText)
        []

/-- The process that an item of a graph declares. -/
def readItem (around : Surroundings) (number : Nat) (item : Value) : Except Malformed CwlProcess :=
  match item.asEntries? with
  | none => .error (.itemNotMapping number)
  | some entries =>
    CwlProcess.ofEntries around ("$graph item " ++ Malformed.numbered number) entries

/-- The processes at the top of a document with this root. -/
def readProcesses (prefixes : List String) (root : Entries) : Except Malformed (List CwlProcess) :=
  match root.get? "$graph" with
  | none => do return [← CwlProcess.ofEntries ⟨prefixes, none⟩ "document root" root]
  | some graph =>
    match graph.asItems? with
    | none => .error .graphNotList
    | some items => (items.zipIdx 1).mapM fun (item, n) => readItem ⟨prefixes, some root⟩ n item

/-- What a value declares as a document. -/
def ofValue (value : Value) : Except Malformed Document :=
  match value.asEntries? with
  | none => .error .rootNotMapping
  | some root => do
    let namespaces ← readNamespaces root
    let cwlVersion := (root.get? "cwlVersion").bind Value.asString?
    let processes ← readProcesses (namespaces.map (·.1)) root
    return { value, cwlVersion, namespaces, processes }

/-- What a text declares as a document. -/
def ofText (text : String) : Except Malformed Document :=
  match Value.ofText text with
  | .error e => .error (.notYaml e)
  | .ok value => ofValue value

end Document

end CwlCompliance
