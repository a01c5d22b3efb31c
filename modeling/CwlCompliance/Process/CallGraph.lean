import CwlCompliance.Process.Basic

/-!
# Which process runs which

The processes of a document form a graph.  Its nodes are the occurrences of processes, those
declared inside steps included, numbered in document order.  A process runs those declared in
place in its steps, and those that its steps refer to by name.  Only processes at the top of the
document can be referred to, and of several with one name the first is meant.

## Main definitions

* `CallGraph` — the nodes and edges, built by `CallGraph.ofProcesses`.
* `CallGraph.closure` — the nodes that can be reached from some nodes.
* `CallGraph.Reaches` — reachability as a relation, to compare with.
-/

namespace CwlCompliance

/-- The processes of a document and which of them runs which. -/
structure CallGraph where
  /-- The occurrences of processes in document order. -/
  nodes : List CwlProcess
  /-- The edges, each from the number of a process to the number of one that it runs. -/
  edges : List (Nat × Nat)

namespace CallGraph

/-! ### Construction -/

/-- How many nodes the processes declared inside a step make. -/
def targetSize (t : Target) : Nat := (CwlProcess.targetOccurrences t).length

/-- The processes at the top of a document, each with the number of its node, when the first of
them is numbered `n`. -/
def numbered : Nat → List CwlProcess → List (Nat × CwlProcess)
  | _, [] => []
  | n, p :: rest => (n, p) :: numbered (n + p.occurrences.length) rest

/-- The number of the node that a reference means, among numbered processes. -/
def resolve? (tops : List (Nat × CwlProcess)) (locator : String) : Option Nat :=
  (tops.find? fun e => e.2.localId == some (localName locator)).map (·.1)

mutual

/-- The edges from the process with number `n`, and from those declared inside it. -/
def edgesOf (find : String → Option Nat) (n : Nat) : CwlProcess → List (Nat × Nat)
  | ⟨_, _, _, _, _, _, _, _, steps, _⟩ => edgesOfSteps find n (n + 1) steps

/-- The edges that the steps of process `owner` make, the next process inside them having number
`next`. -/
def edgesOfSteps (find : String → Option Nat) (owner next : Nat) : List Step → List (Nat × Nat)
  | [] => []
  | ⟨_, target⟩ :: rest =>
    edgesOfTarget find owner next target ++
      edgesOfSteps find owner (next + targetSize target) rest

/-- The edges that a target in a step of process `owner` makes. -/
def edgesOfTarget (find : String → Option Nat) (owner next : Nat) : Target → List (Nat × Nat)
  | .unspecified => []
  | .reference locator => ((find locator).map fun n => (owner, n)).toList
  | .inline p => (owner, next) :: edgesOf find next p

end

/-- The graph of the processes at the top of a document. -/
def ofProcesses (processes : List CwlProcess) : CallGraph :=
  let tops := numbered 0 processes
  { nodes := processes.flatMap CwlProcess.occurrences
    edges := tops.flatMap fun (n, p) => edgesOf (resolve? tops) n p }

/-! ### Reachability -/

/-- The nodes that a node runs. -/
def successors (g : CallGraph) (n : Nat) : List Nat :=
  g.edges.filterMap fun (a, b) => if a = n then some b else none

/-- One node reaches another through any number of edges. -/
inductive Reaches (g : CallGraph) : Nat → Nat → Prop where
  /-- Every node reaches itself. -/
  | refl (n : Nat) : Reaches g n n
  /-- What a node runs reaches further. -/
  | step {a b c : Nat} (edge : (a, b) ∈ g.edges) (onward : Reaches g b c) : Reaches g a c

/-- The nodes found in so many rounds: each adds the nodes to visit that have not been seen, and
goes on to what these run. -/
def visit (g : CallGraph) : Nat → List Nat → List Nat → List Nat
  | 0, seen, _ => seen
  | rounds + 1, seen, todo =>
    match (todo.filter fun n => !seen.contains n).eraseDups with
    | [] => seen
    | fresh => visit g rounds (seen ++ fresh) (fresh.flatMap g.successors)

/-- The nodes that some nodes reach.  Every round but the last finds a new node, so there are no
more rounds than nodes. -/
def closure (g : CallGraph) (start : List Nat) : List Nat :=
  visit g (g.nodes.length + start.length + 1) [] start

/-! ### Tools -/

/-- The tools of a document, those declared inside steps included, in document order. -/
def tools (g : CallGraph) : List CwlProcess := g.nodes.filter CwlProcess.isTool

/-- The tools that a node reaches, in document order. -/
def toolsFrom (g : CallGraph) (start : Nat) : List CwlProcess :=
  let reached := g.closure [start]
  (g.nodes.zipIdx.filter fun (p, n) => reached.contains n && p.isTool).map (·.1)

end CallGraph

end CwlCompliance
