import CwlCompliance.Process.Basic

/-!
# The grammar of documents

Which values are documents, said without the reader.  Items of lists, names of classes
and keys of namespaces and of requirements are seen through tags; whatever else must be
a text, a list or a mapping must be one without a tag.

A value that is no document may be so because a process in it has no proper class, or
for its shape elsewhere.  Where there are several reasons the first one counts: the
namespaces come before the processes, the processes in their order, and in each process
its class before its identifier, that before its steps, and these before the rest.

## Main definitions

* `IsScalar`, `TextShape`, `DocShape`, `InputsShape`, `RequirementsShape`,
  `CommandShape`, `NamespacesShape` — the shapes of attributes.
* `ProcessShape`, `DocumentShape` — **the processes and the documents.**
* `ProcessClassFault`, `DocumentClassFault` — the first thing wrong with a process or a
  document is a class.
-/

namespace CwlCompliance

open Yaml

/-! ### Attributes -/

/-- A text, a number or a truth value without a tag. -/
inductive IsScalar : Value → Prop
  /-- A text. -/
  | string (s : String) : IsScalar (.string s)
  /-- A number. -/
  | number (n : Number) : IsScalar (.number n)
  /-- A truth value. -/
  | bool (b : Bool) : IsScalar (.bool b)

/-- A text attribute. -/
inductive TextShape : Option Value → Prop
  /-- It may be left out. -/
  | absent : TextShape none
  /-- It may be null. -/
  | null : TextShape (some .null)
  /-- It may be given. -/
  | scalar {v : Value} (text : IsScalar v) : TextShape (some v)

/-- A description: a text, or its lines. -/
inductive DocShape : Option Value → Prop
  /-- A text. -/
  | text {doc : Option Value} (text : TextShape doc) : DocShape doc
  /-- A list of lines. -/
  | lines {items : List Value} (lines : ∀ line ∈ items, IsScalar line) :
      DocShape (some (.sequence items))

/-- An input in a list. -/
inductive ListedInputShape : Value → Prop
  /-- It is a mapping of texts. -/
  | intro {fields : Entries} {item : Value} (mapping : item.untag = .mapping fields)
      (id : TextShape (fields.get? "id")) (label : TextShape (fields.get? "label"))
      (doc : DocShape (fields.get? "doc")) : ListedInputShape item

/-- An input in a mapping; a value that is not a mapping is the input's type alone. -/
structure KeyedInputShape (e : Value × Value) : Prop where
  /-- Its key is a scalar. -/
  key : IsScalar e.1
  /-- Its title, if it is a mapping. -/
  label : ∀ fields : Entries, e.2.untag = .mapping fields → TextShape (fields.get? "label")
  /-- Its description, if it is a mapping. -/
  doc : ∀ fields : Entries, e.2.untag = .mapping fields → DocShape (fields.get? "doc")

/-- The inputs of a process. -/
inductive InputsShape : Option Value → Prop
  /-- They may be left out. -/
  | absent : InputsShape none
  /-- They may be null. -/
  | null : InputsShape (some .null)
  /-- They may form a list. -/
  | listed {items : List Value} (inputs : ∀ item ∈ items, ListedInputShape item) :
      InputsShape (some (.sequence items))
  /-- They may form a mapping. -/
  | keyed {es : Entries} (inputs : ∀ e ∈ es, KeyedInputShape e) : InputsShape (some (.mapping es))

/-- Entries name a class. -/
def NamesClass (fields : Entries) (name : String) : Prop :=
  ∃ v, fields.get? "class" = some v ∧ v.untag = .string name

/-- The fields of a Docker requirement. -/
structure DockerShape (fields : Entries) : Prop where
  /-- Every key is a text. -/
  keys : ∀ e ∈ fields, ∃ s, e.1.untag = .string s
  /-- What stands under the key of a field is null or a text. -/
  texts : ∀ e ∈ fields, ∀ f : DockerField, e.1.untag = .string f.key →
    e.2 = .null ∨ ∃ s, e.2.untag = .string s
  /-- No field is given twice. -/
  once : fields.Pairwise fun e e' =>
    ∀ f : DockerField, e.1.untag = .string f.key → e'.1.untag ≠ .string f.key

/-- A requirement in a list. -/
inductive ListedRequirementShape : Value → Prop
  /-- It is a mapping that names its class. -/
  | intro {fields : Entries} {item : Value} {name : String} (mapping : item.untag = .mapping fields)
      (names : NamesClass fields name) (docker : name = dockerClass → DockerShape fields) :
      ListedRequirementShape item

/-- A requirement in a mapping. -/
inductive KeyedRequirementShape : Value × Value → Prop
  /-- Its fields form a mapping. -/
  | fields {fields : Entries} {key : Value} {name : String} (names : key.untag = .string name)
      (docker : name = dockerClass → DockerShape fields) :
      KeyedRequirementShape (key, .mapping fields)
  /-- It has no fields. -/
  | null {key : Value} {name : String} (names : key.untag = .string name) :
      KeyedRequirementShape (key, .null)

/-- One of the two lists of requirements. -/
inductive RequirementsShape : Option Value → Prop
  /-- It may be left out. -/
  | absent : RequirementsShape none
  /-- It may be null. -/
  | null : RequirementsShape (some .null)
  /-- It may be a list. -/
  | listed {items : List Value} (requirements : ∀ item ∈ items, ListedRequirementShape item) :
      RequirementsShape (some (.sequence items))
  /-- It may be a mapping. -/
  | keyed {es : Entries} (requirements : ∀ e ∈ es, KeyedRequirementShape e) :
      RequirementsShape (some (.mapping es))

/-- A command. -/
inductive CommandShape : Option Value → Prop
  /-- It may be left out. -/
  | absent : CommandShape none
  /-- It may be null. -/
  | null : CommandShape (some .null)
  /-- It may be one word. -/
  | word {v : Value} (word : IsScalar v) : CommandShape (some v)
  /-- It may be a list of words. -/
  | words {items : List Value} (words : ∀ word ∈ items, IsScalar word) :
      CommandShape (some (.sequence items))

/-! ### Processes -/

/-- Entries name one of the classes of processes. -/
def HasClass (fields : Entries) (c : ProcessClass) : Prop := NamesClass fields c.name

mutual

/-- The entries of a process. -/
inductive ProcessShape : Entries → Prop
  /-- It has a class, and each attribute has its shape.  Steps belong to workflows only. -/
  | intro {es : Entries} {c : ProcessClass} (hasClass : HasClass es c)
      (id : TextShape (es.get? "id")) (steps : c = .workflow → StepsShape (es.get? "steps"))
      (label : TextShape (es.get? "label")) (doc : DocShape (es.get? "doc"))
      (inputs : InputsShape (es.get? "inputs"))
      (requirements : RequirementsShape (es.get? "requirements"))
      (hints : RequirementsShape (es.get? "hints"))
      (baseCommand : CommandShape (es.get? "baseCommand")) : ProcessShape es

/-- The steps of a workflow. -/
inductive StepsShape : Option Value → Prop
  /-- They may be left out. -/
  | absent : StepsShape none
  /-- They may be null. -/
  | null : StepsShape (some .null)
  /-- They may form a list. -/
  | listed {items : List Value} (steps : ∀ item ∈ items, ListedStepShape item) :
      StepsShape (some (.sequence items))
  /-- They may form a mapping, whatever its keys. -/
  | keyed {es : Entries} (steps : ∀ e ∈ es, KeyedStepShape e.2) : StepsShape (some (.mapping es))

/-- A step in a list. -/
inductive ListedStepShape : Value → Prop
  /-- It is a mapping with an identifier and what it runs. -/
  | intro {fields : Entries} {item : Value} (mapping : item.untag = .mapping fields)
      (id : TextShape (fields.get? "id")) (run : RunShape (fields.get? "run")) :
      ListedStepShape item

/-- The value of a step in a mapping. -/
inductive KeyedStepShape : Value → Prop
  /-- It is a mapping with what it runs. -/
  | intro {fields : Entries} {item : Value} (mapping : item.untag = .mapping fields)
      (run : RunShape (fields.get? "run")) : KeyedStepShape item

/-- What a step runs. -/
inductive RunShape : Option Value → Prop
  /-- It may be left out. -/
  | absent : RunShape none
  /-- It may be null. -/
  | null : RunShape (some .null)
  /-- It may be a reference. -/
  | reference (locator : String) : RunShape (some (.string locator))
  /-- It may be a process. -/
  | inline {es : Entries} (process : ProcessShape es) : RunShape (some (.mapping es))

end

mutual

/-- The first thing wrong with the entries of a process is a class. -/
inductive ProcessClassFault : Entries → Prop
  /-- It has no proper class itself. -/
  | own {es : Entries} (noClass : ∀ c, ¬HasClass es c) : ProcessClassFault es
  /-- A process that it declares has none. -/
  | inner {es : Entries} (workflow : HasClass es .workflow) (id : TextShape (es.get? "id"))
      (steps : StepsClassFault (es.get? "steps")) : ProcessClassFault es

/-- The first thing wrong with steps is a class. -/
inductive StepsClassFault : Option Value → Prop
  /-- It is one of a step in a list. -/
  | listed {before after : List Value} {item : Value}
      (shapes : ∀ item ∈ before, ListedStepShape item) (fault : ListedStepClassFault item) :
      StepsClassFault (some (.sequence (before ++ item :: after)))
  /-- It is one of a step in a mapping. -/
  | keyed {before after : Entries} {e : Value × Value} (shapes : ∀ e ∈ before, KeyedStepShape e.2)
      (fault : KeyedStepClassFault e.2) : StepsClassFault (some (.mapping (before ++ e :: after)))

/-- The first thing wrong with a step in a list is a class. -/
inductive ListedStepClassFault : Value → Prop
  /-- It is that of a process that the step declares. -/
  | intro {es fields : Entries} {item : Value} (mapping : item.untag = .mapping fields)
      (id : TextShape (fields.get? "id")) (run : fields.get? "run" = some (.mapping es))
      (fault : ProcessClassFault es) : ListedStepClassFault item

/-- The first thing wrong with the value of a step in a mapping is a class. -/
inductive KeyedStepClassFault : Value → Prop
  /-- It is that of a process that the step declares. -/
  | intro {es fields : Entries} {item : Value} (mapping : item.untag = .mapping fields)
      (run : fields.get? "run" = some (.mapping es)) (fault : ProcessClassFault es) :
      KeyedStepClassFault item

end

/-! ### Documents -/

/-- The declared namespaces. -/
inductive NamespacesShape : Option Value → Prop
  /-- They may be left out. -/
  | absent : NamespacesShape none
  /-- They may form a mapping of texts to texts. -/
  | mapping {es : Entries} {v : Value} (mapping : v.untag = .mapping es)
      (keys : ∀ e ∈ es, ∃ s, e.1.untag = .string s) (uris : ∀ e ∈ es, ∃ s, e.2.untag = .string s) :
      NamespacesShape (some v)

/-- An item of a graph. -/
inductive ItemShape : Value → Prop
  /-- It is a mapping that declares a process. -/
  | intro {fields : Entries} {item : Value} (mapping : item.untag = .mapping fields)
      (process : ProcessShape fields) : ItemShape item

/-- A document. -/
inductive DocumentShape : Value → Prop
  /-- It may be one process. -/
  | single {es : Entries} {v : Value} (root : v.untag = .mapping es)
      (namespaces : NamespacesShape (es.get? "$namespaces")) (noGraph : es.get? "$graph" = none)
      (process : ProcessShape es) : DocumentShape v
  /-- It may be a graph of processes. -/
  | packed {es : Entries} {items : List Value} {v : Value} {graph : Value}
      (root : v.untag = .mapping es) (namespaces : NamespacesShape (es.get? "$namespaces"))
      (hasGraph : es.get? "$graph" = some graph) (list : graph.untag = .sequence items)
      (processes : ∀ item ∈ items, ItemShape item) : DocumentShape v

/-- The first thing wrong with a document is a class. -/
inductive DocumentClassFault : Value → Prop
  /-- The document is one process. -/
  | single {es : Entries} {v : Value} (root : v.untag = .mapping es)
      (namespaces : NamespacesShape (es.get? "$namespaces")) (noGraph : es.get? "$graph" = none)
      (fault : ProcessClassFault es) : DocumentClassFault v
  /-- The document is a graph of processes. -/
  | packed {es fields : Entries} {before after : List Value} {item v : Value} {graph : Value}
      (root : v.untag = .mapping es) (namespaces : NamespacesShape (es.get? "$namespaces"))
      (hasGraph : es.get? "$graph" = some graph)
      (list : graph.untag = .sequence (before ++ item :: after))
      (shapes : ∀ item ∈ before, ItemShape item) (mapping : item.untag = .mapping fields)
      (fault : ProcessClassFault fields) : DocumentClassFault v

end CwlCompliance
