import CwlCompliance.Yaml.Value

/-!
# Marks

A value is written mark by mark: a scalar is one mark, and a collection starts, has its members, and
ends.  A mapping with one entry starts late: its start is held until its key starts, since that
entry may be a tag with what it tags.  A start that is held is lost if the key is a mapping with one
entry or tagged, for these hold a start of their own.  The marks do not nest then, and the value
cannot be written.

## Main definitions

* `Mark`, `Value.marks` — the marks of a value.
* `Opening`, `Opening.after` — what is open, and what one more mark does to it.
* `WritingFault`, `Value.writingFault?` — why a value cannot be written.
-/

namespace CwlCompliance.Yaml

/-- A mark of a value that is being written. -/
inductive Mark where
  /-- A scalar. -/
  | scalar
  /-- A list starts. -/
  | sequenceStart
  /-- A list ends. -/
  | sequenceEnd
  /-- A mapping starts. -/
  | mappingStart
  /-- A mapping ends. -/
  | mappingEnd
  deriving DecidableEq, Repr

namespace Value

/-- The start of a mapping, if one is held. -/
def heldStart (held : Bool) : List Mark := if held then [.mappingStart] else []

mutual

/-- The marks of a value, after the start of the mapping around it if that is held. -/
def marks (held : Bool) : Value → List Mark
  | mapping [e] => entryMarks true e ++ [.mappingEnd]
  | mapping entries => heldStart held ++ .mappingStart :: entriesMarks entries ++ [.mappingEnd]
  | sequence items => heldStart held ++ .sequenceStart :: itemsMarks items ++ [.sequenceEnd]
  | tagged _ v => taggedMarks v
  | _ => heldStart held ++ [.scalar]

/-- The marks of a value under a tag: a mapping there starts at once. -/
def taggedMarks : Value → List Mark
  | mapping entries => .mappingStart :: entriesMarks entries ++ [.mappingEnd]
  | sequence items => .sequenceStart :: itemsMarks items ++ [.sequenceEnd]
  | tagged _ v => taggedMarks v
  | _ => [.scalar]

/-- The marks of the items of a list. -/
def itemsMarks : List Value → List Mark
  | [] => []
  | v :: rest => marks false v ++ itemsMarks rest

/-- The marks of the entries of a mapping that has started. -/
def entriesMarks : List (Value × Value) → List Mark
  | [] => []
  | e :: rest => entryMarks false e ++ entriesMarks rest

/-- The marks of an entry, after the start of its mapping if that is held. -/
def entryMarks (held : Bool) : Value × Value → List Mark
  | (k, v) => marks held k ++ marks false v

end

end Value

/-- A collection that is open. -/
inductive Opening where
  /-- A list. -/
  | sequence
  /-- A mapping that goes on with a key. -/
  | atKey
  /-- A mapping that goes on with the value of a key. -/
  | atValue
  deriving DecidableEq, Repr

/-- Why a value cannot be written. -/
inductive WritingFault where
  /-- A collection ends where a value is to stand. -/
  | noValue
  /-- A collection ends that is not open. -/
  | notOpen
  deriving DecidableEq, Repr

/-- The wording of a fault. -/
def WritingFault.message : WritingFault → String
  | noValue => "expected SCALAR, SEQUENCE-START, MAPPING-START, or ALIAS"
  | notOpen => "expected DOCUMENT-START or STREAM-END"

namespace Opening

/-- What is open, the innermost first, after a value is complete: the value of a key follows the key,
and the next key follows the value. -/
def advance : List Opening → List Opening
  | .atKey :: rest => .atValue :: rest
  | .atValue :: rest => .atKey :: rest
  | stack => stack

/-- What is open, the innermost first, after one more mark. -/
def after : List Opening → Mark → Except WritingFault (List Opening)
  | stack, .scalar => .ok (advance stack)
  | stack, .sequenceStart => .ok (.sequence :: stack)
  | stack, .mappingStart => .ok (.atKey :: stack)
  | .sequence :: rest, .sequenceEnd => .ok (advance rest)
  | .atKey :: rest, .mappingEnd => .ok (advance rest)
  | [], _ => .error .notOpen
  | _ :: _, _ => .error .noValue

end Opening

/-- Why a value cannot be written, if it cannot: the first of its marks that does not fit. -/
def Value.writingFault? (v : Value) : Option WritingFault :=
  match (v.marks false).foldlM Opening.after [] with
  | .ok _ => none
  | .error f => some f

end CwlCompliance.Yaml
