import CwlCompliance.Logging.Field

/-!
# What is logged

A level says how much is logged, a directive how much of what.  A filter is a list of directives,
of which the one with the longest matching target decides.

## Main definitions

* `Level`, `Level.ofText?` — the levels.
* `Directive`, `Directive.ofText` — a level for a target, perhaps only inside a span.
* `DirectiveText` — how the parts of a directive are found.
* `Filter`, `Filter.ofText`, `Filter.admits` — which events are logged.
-/

namespace CwlCompliance

/-- How much is logged; also how grave an event is. -/
inductive Level where
  /-- Nothing. -/
  | off
  /-- What went wrong. -/
  | error
  /-- What may be wrong. -/
  | warn
  /-- What is done. -/
  | info
  /-- How it is done. -/
  | debug
  /-- Everything. -/
  | trace
  deriving DecidableEq, Repr

namespace Level

/-- All levels, from the one that logs least. -/
def all : List Level := [off, error, warn, info, debug, trace]

/-- The name of a level. -/
def name : Level → String
  | off => "off"
  | error => "error"
  | warn => "warn"
  | info => "info"
  | debug => "debug"
  | trace => "trace"

/-- The position of a level. -/
def rank : Level → Nat
  | off => 0
  | error => 1
  | warn => 2
  | info => 3
  | debug => 4
  | trace => 5

/-- The natural number that decimal digits write, perhaps behind a plus. -/
def number? (s : String) : Option Nat :=
  let ds := match s.toList with
    | '+' :: rest => rest
    | cs => cs
  if ds.isEmpty || !ds.all Char.isDigit then none
  else
    let n := ds.foldl (fun n c => n * 10 + (c.toNat - 48)) 0
    if n < Nat.pow 2 64 then some n else none

/-- The level that a text names, by its name in any case or by its position.  No text names the
level of errors. -/
def ofText? (s : String) : Option Level :=
  ((number? s).bind fun n => all[n]?).or
    (if s.isEmpty then some error else all.find? fun l => Text.sameIgnoringCase l.name s)

end Level

/-- How much is logged of what. -/
structure Directive where
  /-- The start of the targets meant. -/
  target : Option String := none
  /-- The span in which events are meant. -/
  span : Option String := none
  /-- The fields that the span has to have. -/
  fields : List String := []
  /-- How much is logged. -/
  level : Level := .trace
  deriving DecidableEq, Repr

namespace Directive

/-- Whether a directive can start with a character. -/
def isStart (c : Char) : Bool :=
  Text.isAlphanumeric c || c = '-' || c = ':' || c = '_'

/-- Characters cut at every comma. -/
def splitCommas (cs : List Char) : List (List Char) :=
  cs.foldr
    (fun c parts =>
      if c = ',' then [] :: parts
      else
        match parts with
        | [] => [[c]]
        | p :: rest => (c :: p) :: rest)
    [[]]

end Directive

/-- Why a text is no directive. -/
inductive DirectiveError where
  /-- It has not the shape of one. -/
  | shape
  /-- What should be its level is none. -/
  | level
  /-- It asks for a field with a value that is no pattern. -/
  | field
  deriving DecidableEq, Repr

/-- The wording of the failure.  A level that is none is also named as its cause. -/
def DirectiveError.message : DirectiveError → String
  | shape => "invalid filter directive"
  | field => "invalid field filter"
  | level =>
    let cause := "error parsing level filter: expected one of \"off\", \"error\", \"warn\", " ++
      "\"info\", \"debug\", \"trace\", or a number 0-5"
    cause ++ ": " ++ cause

/-- The text of a directive.  Its parts are found in the text without the white space around it,
and are cut at the places where they are found, but from the text with that white space. -/
structure DirectiveText where
  /-- The characters in which parts are found. -/
  searched : List Char
  /-- The characters from which parts are cut. -/
  written : List Char

namespace DirectiveText

/-- The text of a directive. -/
def of (s : String) : DirectiveText := ⟨Text.trimChars s.toList, s.toList⟩

/-- The first place, not before `i`, of a character with a property, or the end. -/
def place (t : DirectiveText) (i : Nat) (p : Char → Bool) : Nat :=
  i + ((t.searched.drop i).takeWhile fun c => !p c).length

/-- What is written between two places. -/
def between (t : DirectiveText) (i j : Nat) : String := String.ofList ((t.written.take j).drop i)

/-- What is written from a place on. -/
def onward (t : DirectiveText) (i : Nat) : String := String.ofList (t.written.drop i)

/-- The level that a text names; without a text everything is logged. -/
def level (s : String) : Except DirectiveError Level :=
  if s.isEmpty then .ok .trace
  else
    match Level.ofText? s with
    | some l => .ok l
    | none => .error .level

/-- The directive with the level that starts at a place and ends the text; a comma may follow. -/
def withLevel (t : DirectiveText) (i : Nat) (d : Directive) : Except DirectiveError Directive :=
  let j := t.place i (· = ',')
  if t.searched.length ≤ j then (level (t.onward i)).map fun level => { d with level }
  else
    match level (t.between i j) with
    | .error e => .error e
    | .ok level => if j + 1 = t.searched.length then .ok { d with level } else .error .shape

/-- The directive after its span: it ends there, or its level follows. -/
def afterSpan (t : DirectiveText) (i : Nat) (d : Directive) : Except DirectiveError Directive :=
  match t.searched[i]? with
  | none => .ok d
  | some c => if c = '=' then t.withLevel (i + 1) d else .error .shape

/-- The field written between two places, which is not empty. -/
def field (t : DirectiveText) (i j : Nat) : Except DirectiveError String :=
  let text := t.between i j
  if text.isEmpty then .error .shape
  else if Field.isValid text then .ok text
  else .error .field

/-- The fields written between two places. -/
def fields (t : DirectiveText) (i j : Nat) : Except DirectiveError (List String) :=
  let parts := Directive.splitCommas ((t.searched.take j).drop i)
  let starts := parts.foldl (fun starts p => (starts.headD i + p.length + 1) :: starts) [i]
  (starts.reverse.zip parts).mapM fun (k, p) => t.field k (k + p.length)

/-- The directive with the fields that start at a place, in a brace before the end of a span. -/
def withFields (t : DirectiveText) (i : Nat) (d : Directive) : Except DirectiveError Directive :=
  let j := t.place i (· = '\x7d')
  match t.searched.drop j with
  | _ :: ']' :: _ => do
    let fields ← t.fields i j
    t.afterSpan (j + 2) { d with fields }
  | _ => .error .shape

/-- The directive with the span that starts at a place. -/
def withSpan (t : DirectiveText) (i : Nat) (d : Directive) : Except DirectiveError Directive :=
  let j := t.place i fun c => c = ']' || c = '\x7b'
  match t.searched[j]? with
  | some ']' => t.afterSpan (j + 1) { d with span := some (t.between i j) }
  | some _ => t.withFields (j + 1) { d with span := if i = j then none else some (t.between i j) }
  | none => .error .shape

/-- The directive of a bare level, or of a target of which everything is logged. -/
def bare (s : String) : Directive :=
  match Level.ofText? s with
  | some level => { level }
  | none => { target := some s }

end DirectiveText

/-- The directive that a text writes. -/
def Directive.ofText (s : String) : Except DirectiveError Directive :=
  let t := DirectiveText.of s
  match t.searched with
  | [] => .error .shape
  | '[' :: _ => t.withSpan 1 {}
  | c :: _ =>
    if isStart c then
      let j := t.place 0 fun c => c = '=' || c = '[' || c = ','
      match t.searched.drop j with
      | '=' :: _ => t.withLevel (j + 1) { target := some (t.between 0 j) }
      | '[' :: _ => t.withSpan (j + 1) { target := some (t.between 0 j) }
      | _ :: _ :: _ => .error .shape
      | _ => .ok (DirectiveText.bare (t.onward 0))
    else .error .shape

/-- Which events are logged. -/
abbrev Filter := List Directive

namespace Filter

/-- The filter that a text writes: directives between commas.  No directive logs errors only. -/
def ofText (s : String) : Except DirectiveError Filter := do
  let parts := (Directive.splitCommas s.toList).filter fun p => !p.isEmpty
  let directives ← parts.mapM fun p => Directive.ofText (String.ofList p)
  return if directives.isEmpty then [{ level := .error }] else directives

/-- Whether a directive is about events outside of spans from a target with these fields. -/
def matching (target : String) (fields : List String) (d : Directive) : Bool :=
  d.span.isNone && d.fields.all (fun f => !f.toList.contains '=' && fields.contains f) &&
    d.target.all fun t => t.toList.isPrefixOf target.toList

/-- The order of two lists of texts: that of the first texts that differ. -/
def compareTexts : List String → List String → Ordering
  | [], [] => .eq
  | [], _ :: _ => .lt
  | _ :: _, [] => .gt
  | a :: as, b :: bs => (compare a b).then (compareTexts as bs)

/-- Which of two directives is more exact: the one with the longer target (none is shorter than any),
then the one with more fields; for a definite order then the one whose target, and whose fields, come
later in the order of texts. -/
def compareExactness (d b : Directive) : Ordering :=
  let length := fun (d : Directive) => (d.target.map fun t => t.length + 1).getD 0
  (compare (length d) (length b)).then
    ((compare d.fields.length b.fields.length).then
      ((compare (d.target.getD "") (b.target.getD "")).then (compareTexts d.fields b.fields)))

/-- The more exact of two directives; of two alike the later one. -/
def exacter (best : Option Directive) (d : Directive) : Option Directive :=
  match best with
  | none => some d
  | some b => if compareExactness d b = .lt then some b else some d

/-- Whether an event of a level from a target with these fields is logged. -/
def admits (f : Filter) (target : String) (fields : List String) (level : Level) : Bool :=
  match (f.filter (matching target fields)).foldl exacter none with
  | none => false
  | some d => level.rank ≤ d.level.rank

end Filter

end CwlCompliance
