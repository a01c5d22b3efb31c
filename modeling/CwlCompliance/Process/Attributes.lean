import CwlCompliance.Process.Malformed

/-!
# The attributes of a process

How the entries of a mapping give the attributes of a process.  Texts are scalars without a tag;
collections have a form as a list and a form as a mapping.

## Main definitions

* `Attributes.text`, `Attributes.doc` — a text and a description.
* `Attributes.inputs`, `Attributes.requirements`, `Attributes.baseCommand` — the collections.
* `Docker.ofEntries` — a Docker requirement from its fields.
* `Provenance.resolve` — the metadata of a workflow.
-/

namespace CwlCompliance

open Yaml

/-! ### Docker requirements -/

/-- The text of a field of a Docker requirement; an untagged null gives none. -/
def Docker.fieldText (v : Value) : Except DockerError (Option String) :=
  match v with
  | .null => .ok none
  | v =>
    match v.asString? with
    | some s => .ok (some s)
    | none => .error (.notText v.untag)

/-- A Docker requirement with the fields `given` already set and further entries to come.  Keys
that name no field are ignored. -/
def Docker.addEntries : Docker → List DockerField → Entries → Except DockerError Docker
  | d, _, [] => .ok d
  | d, given, (key, value) :: rest =>
    match key.asString? with
    | none => .error (.keyNotText key.untag)
    | some name =>
      match DockerField.ofKey? name with
      | none => addEntries d given rest
      | some f =>
        if f ∈ given then .error (.repeated f)
        else
          match fieldText value with
          | .error e => .error e
          | .ok text => addEntries (d.set f text) (f :: given) rest

/-- The Docker requirement with these fields. -/
def Docker.ofEntries (entries : Entries) : Except DockerError Docker :=
  Docker.addEntries {} [] entries

/-! ### Attributes -/

namespace Attributes

/-- A text attribute: absent or null, or an untagged scalar. -/
def text (entries : Entries) (key owner : String) : Except Malformed (Option String) :=
  match entries.get? key with
  | none | some .null => .ok none
  | some v =>
    match v.scalarText? with
    | some s => .ok (some s)
    | none => .error (.notText key owner)

/-- The texts of a list of untagged scalars. -/
def texts (e : Malformed) (items : List Value) : Except Malformed (List String) :=
  items.mapM fun item => (item.scalarText?).elim (.error e) .ok

/-- A description: a text, or a list of texts, which are its lines. -/
def doc (entries : Entries) (owner : String) : Except Malformed (Option String) :=
  match entries.get? "doc" with
  | some (.sequence items) => do
    return some ("\n".intercalate (← texts (.docNotTexts owner) items))
  | _ => text entries "doc" owner

/-- An input in a list. -/
def listedInput (owner : String) (number : Nat) (item : Value) : Except Malformed Input :=
  match item.asEntries? with
  | none => .error (.inputNotMapping number owner)
  | some entries => do
    let owner := "input " ++ Malformed.numbered number ++ " of " ++ owner
    let id ← text entries "id" owner
    let label ← text entries "label" owner
    let doc ← doc entries owner
    return { id, label, doc }

/-- An input in a mapping.  A value that is not a mapping is the input's type alone. -/
def keyedInput (owner : String) (key item : Value) : Except Malformed Input :=
  match key.scalarText? with
  | none => .error (.inputKeyNotText owner)
  | some id =>
    match item.asEntries? with
    | none => .ok { id := some id, label := none, doc := none }
    | some entries => do
      let owner := "input '" ++ id ++ "' of " ++ owner
      let label ← text entries "label" owner
      let doc ← doc entries owner
      return { id := some id, label, doc }

/-- The inputs of a process. -/
def inputs (entries : Entries) (owner : String) : Except Malformed (Option (List Input)) :=
  match entries.get? "inputs" with
  | none | some .null => .ok none
  | some (.sequence items) =>
    some <$> (items.zipIdx 1).mapM fun (item, n) => listedInput owner n item
  | some (.mapping entries) => some <$> entries.mapM fun (key, item) => keyedInput owner key item
  | some _ => .error (.inputsNotCollection owner)

/-- A requirement in a list, as its class and its other fields. -/
def listedRequirement (list : RequirementList) (owner : String) (number : Nat) (item : Value) :
    Except Malformed (String × Entries) :=
  match item.asEntries? with
  | none => .error (.requirementNotMapping list number owner)
  | some entries =>
    match (entries.get? "class").bind Value.asString? with
    | none => .error (.requirementWithoutClass list number owner)
    | some c => .ok (c, entries.filter fun e => e.1.asString? != some "class")

/-- A requirement in a mapping, as its class and its fields. -/
def keyedRequirement (list : RequirementList) (owner : String) (key fields : Value) :
    Except Malformed (String × Entries) :=
  match key.asString? with
  | none => .error (.requirementKeyNotText list owner)
  | some c =>
    match fields with
    | .mapping entries => .ok (c, entries)
    | .null => .ok (c, [])
    | _ => .error (.requirementFieldsNotMapping list c owner)

/-- A requirement of a class with its fields. -/
def requirement (list : RequirementList) (owner : String) (c : String) (fields : Entries) :
    Except Malformed Requirement :=
  if c = dockerClass then
    match Docker.ofEntries fields with
    | .ok d => .ok (.docker d)
    | .error e => .error (.badDocker list owner e)
  else .ok (.other c fields)

/-- The requirements in one of the two lists.  The shape of all is settled before the fields of
any are looked at. -/
def requirements (list : RequirementList) (entries : Entries) (owner : String) :
    Except Malformed (Option (List Requirement)) := do
  let shaped ←
    match entries.get? list.key with
    | none | some .null => return none
    | some (.sequence items) =>
      (items.zipIdx 1).mapM fun (item, n) => listedRequirement list owner n item
    | some (.mapping entries) =>
      entries.mapM fun (key, fields) => keyedRequirement list owner key fields
    | some _ => throw (.requirementsNotCollection list owner)
  return some (← shaped.mapM fun (c, fields) => requirement list owner c fields)

/-- The command that a process runs: a text, or a list of texts. -/
def baseCommand (entries : Entries) (owner : String) : Except Malformed (Option (List String)) :=
  match entries.get? "baseCommand" with
  | none | some .null => .ok none
  | some (.sequence items) => some <$> texts (.commandNotTexts owner) items
  | some v =>
    match v.scalarText? with
    | some s => .ok (some [s])
    | none => .error (.commandNotText owner)

/-- The class of a process. -/
def processClass (entries : Entries) (owner : String) : Except Malformed ProcessClass :=
  match (entries.get? "class").bind Value.asString? with
  | none => .error (.noClass owner)
  | some name =>
    match ProcessClass.ofName? name with
    | some c => .ok c
    | none => .error (.unknownClass owner name)

end Attributes

/-! ### Metadata -/

namespace Provenance

/-- The keys under which a field may be given, in the order in which they are tried: each
unqualified name, followed by that name under each declared prefix. -/
def candidates (prefixes : List String) (f : ProvenanceField) : List String :=
  f.spellings.flatMap fun name => name :: prefixes.map fun p => p ++ ":" ++ name

/-- The value of a field in one mapping: the first under a candidate key that is not null. -/
def find? (prefixes : List String) (entries : Entries) (f : ProvenanceField) : Option Value :=
  (candidates prefixes f).findSome? fun key => (entries.get? key).filter fun v => !v.isNull

/-- The metadata of a workflow from its own entries, and what is missing there from the root of
the document, if that is one of several processes. -/
def resolve (prefixes : List String) (entries : Entries) (root : Option Entries) : Provenance :=
  ProvenanceField.all.filterMap fun f =>
    let found := (find? prefixes entries f).or (root.bind fun root => find? prefixes root f)
    found.map fun v => (f, v)

end Provenance

end CwlCompliance
