import CwlCompliance.Yaml.Scalar
import CwlCompliance.Yaml.Node
import CwlCompliance.Yaml.Token.Lines

/-!
# Reading a YAML text

A text is read as one document, and the document's tree as a value: aliases are replaced by what
they name, scalars by what they stand for.

## Main definitions

* `Node.link` — aliases bound to the anchors before them.
* `Node.toValue` — the value of a bound tree.
* `Value.ofText` — the value that a text writes.
-/

namespace CwlCompliance.Yaml

/-! ### Binding aliases

An anchor gets a slot: the number of different names in use before it.  A name that is anchored
again therefore shares its new slot with the next new name, and a slot belongs to the anchor that
took it last. -/

/-- What has been bound so far. -/
structure Anchors where
  /-- The slot of each name. -/
  names : List (String × Nat) := []
  /-- The anchor that took each slot last, by its number in the text. -/
  owners : List (Nat × Nat) := []
  /-- The anchored nodes by their number in the text. -/
  nodes : List (Nat × Node Nat) := []
  /-- How many anchors there were. -/
  count : Nat := 0
  /-- How many nodes there were, a collection counting twice. -/
  events : Nat := 0

namespace Anchors

/-- The node that holds a slot. -/
def node? (a : Anchors) (slot : Nat) : Option (Node Nat) :=
  (a.owners.lookup slot).bind fun n => a.nodes.lookup n

/-- A list of pairs with the value of a key replaced. -/
def assign {α β : Type} [BEq α] (k : α) (v : β) (l : List (α × β)) : List (α × β) :=
  (k, v) :: l.filter fun e => !(e.1 == k)

/-- A node has started: its anchor, if any, takes a slot.  The answer is the anchor's number. -/
def enter (p : Properties) (events : Nat) (a : Anchors) : Option Nat × Anchors :=
  let a := { a with events := a.events + events }
  match p.anchor with
  | none => (none, a)
  | some name =>
    let slot := a.names.length
    (some a.count, { a with
      names := assign name slot a.names
      owners := assign slot a.count a.owners
      count := a.count + 1 })

/-- A node has ended: it is what its anchor stands for. -/
def leave (number : Option Nat) (node : Node Nat) (a : Anchors) : Anchors :=
  match number with
  | none => a
  | some n => { a with nodes := (n, node) :: a.nodes }

end Anchors

namespace Node

mutual

/-- The tree with each alias bound to the slot of the anchor before it. -/
def link : Node String → StateT Anchors (Except Error) (Node Nat)
  | .aliasTo name => do
    let a ← get
    set { a with events := a.events + 1 }
    match a.names.lookup name with
    | some slot => return .aliasTo slot
    | none => throw .undefinedAlias
  | .scalar p text plain => do
    let number ← modifyGet (Anchors.enter p 1)
    let node := .scalar p text plain
    modify (Anchors.leave number node)
    return node
  | .sequence p items => do
    let number ← modifyGet (Anchors.enter p 2)
    let node := .sequence p (← linkItems items)
    modify (Anchors.leave number node)
    return node
  | .mapping p entries => do
    let number ← modifyGet (Anchors.enter p 2)
    let node := .mapping p (← linkEntries entries)
    modify (Anchors.leave number node)
    return node

/-- The items of a list with their aliases bound. -/
def linkItems : List (Node String) → StateT Anchors (Except Error) (List (Node Nat))
  | [] => return []
  | item :: items => return (← link item) :: (← linkItems items)

/-- The entries of a mapping with their aliases bound. -/
def linkEntries :
    List (Node String × Node String) → StateT Anchors (Except Error) (List (Node Nat × Node Nat))
  | [] => return []
  | entry :: entries => return (← linkEntry entry) :: (← linkEntries entries)

/-- The key and the value of an entry with their aliases bound. -/
def linkEntry : Node String × Node String → StateT Anchors (Except Error) (Node Nat × Node Nat)
  | (key, value) => return (← link key, ← link value)

end

/-! ### Values -/

/-- The exclamation mark as a byte. -/
def mark : UInt8 := 33

/-- The name of a local tag, which starts with an exclamation mark; a second mark before the name is
not part of it.  A tag that is no text has no name. -/
def localTag? : TagBytes → Option String
  | [] => none
  | b :: name =>
    if b ≠ mark then none
    else if name = [] ∨ name = [mark] then some "!"
    else Utf8.decode? (if name.head? = some mark then name.drop 1 else name)

/-- The value of a scalar.  A local tag that is no text is ignored. -/
def scalarValue (p : Properties) (text : String) (plain : Bool) : Except Error Value :=
  let untagged := if plain then Scalar.plainValue text else .ok (.string text)
  match p.tag with
  | none => untagged
  | some tag =>
    match localTag? tag with
    | some name => untagged.map (.tagged name)
    | none =>
      if tag.head? = some mark then untagged
      else
        match Utf8.decode? tag with
        | some tag => Scalar.taggedValue tag text
        | none => .ok (.string text)

/-- A collection's value under its tag; only a local tag is kept. -/
def tagCollection (p : Properties) (v : Value) : Value :=
  match p.tag.bind localTag? with
  | some name => .tagged name v
  | none => v

/-- The node that a node stands for: itself, or the one that an alias names.  Each alias counts
against the limit of one hundred for each node of the document. -/
def resolve (a : Anchors) (node : Node Nat) : StateT Nat (Except Error) (Node Nat) :=
  match node with
  | .aliasTo slot => do
    modify (· + 1)
    if a.events * 100 < (← get) then throw .tooManyAliases
    match a.node? slot with
    | some target => return target
    | none => throw .tooDeep
  | node => return node

/-- The entries so far with one more, whose key must be new. -/
def addEntry (entries : Array (Value × Value)) (key value : Value) :
    Except Error (Array (Value × Value)) :=
  if entries.any fun e => e.1.same key then .error .duplicateKey
  else .ok (entries.push (key, value))

/-- The value of a tree with at most so many collections around one another. -/
def toValue (a : Anchors) : Nat → Node Nat → StateT Nat (Except Error) Value
  | depth, node => do
    match ← resolve a node with
    | .scalar p text plain => scalarValue p text plain
    | .sequence p items =>
      match depth with
      | 0 => throw .tooDeep
      | depth + 1 => return tagCollection p (.sequence (← items.mapM (toValue a depth)))
    | .mapping p entries =>
      match depth with
      | 0 => throw .tooDeep
      | depth + 1 =>
        let entries ← entries.foldlM (fun done (key, value) => do
          let key ← toValue a depth key
          let value ← toValue a depth value
          addEntry done key value) #[]
        return tagCollection p (.mapping entries.toList)
    | .aliasTo _ => throw .tooDeep

end Node

/-- The value that a text writes; a text without a document writes null. -/
def Value.ofText (text : String) : Except Error Value := do
  match ← Node.ofTokens (← Token.ofText text) with
  | none => return .null
  | some node =>
    let (node, anchors) ← node.link.run {}
    let (value, _) ← (node.toValue anchors Node.depthLimit).run 0
    return value

end CwlCompliance.Yaml
