import CwlCompliance.Yaml.Token.Quoted
import CwlCompliance.Yaml.Token.Block
import CwlCompliance.Yaml.Token.Plain
import CwlCompliance.Yaml.Token.Property

/-!
# The tokens of a text

A text is cut into tokens from its start.  Indentation opens and closes block collections, and a
node on one line may turn out to be a key when its colon is met: the place where the key would have
started is remembered, and the tokens that the key implies are put there.

## Main definitions

* `Layout` — the tokens so far, the open indentations and the possible keys.
* `Layout.next` — one token more.
* `Token.ofText` — the tokens of a text.
-/

namespace CwlCompliance.Yaml

open Character

/-- A place where a key may have started without being marked as one. -/
structure PossibleKey where
  /-- How many tokens stood before it. -/
  position : Nat
  /-- Its place in the text, in characters. -/
  index : Nat
  /-- Its line. -/
  line : Nat
  /-- Its column. -/
  column : Nat
  /-- Whether the line must be a key: it starts a line at the indentation of a mapping. -/
  required : Bool

/-- The state of cutting a text into tokens. -/
structure Layout where
  /-- The place reached. -/
  cursor : Cursor
  /-- The tokens so far. -/
  tokens : Array Token
  /-- The indentation of the innermost block collection, or `-1`. -/
  indent : Int
  /-- The indentations around it. -/
  outer : List Int
  /-- Whether a key may start here. -/
  keyAllowed : Bool
  /-- The possible key of the innermost bracket. -/
  possible : Option PossibleKey
  /-- The possible keys of the brackets around it; empty outside brackets. -/
  enclosing : List (Option PossibleKey)

namespace Layout

/-- The state before the first token. -/
def initial (text : List Char) : Layout :=
  { cursor := .start text, tokens := #[], indent := -1, outer := [], keyAllowed := true
    possible := none, enclosing := [] }

/-- Whether the place reached is inside brackets. -/
def inFlow (s : Layout) : Bool := !s.enclosing.isEmpty

/-- One token more. -/
def push (s : Layout) (t : Token) : Layout := { s with tokens := s.tokens.push t }

/-- A token put before those from a position on. -/
def insert (s : Layout) (position : Nat) (t : Token) : Layout :=
  { s with tokens := s.tokens.insertIdxIfInBounds position t }

/-- The possible key of the innermost bracket given up; a required one cannot be. -/
def forgetKey (s : Layout) : Except Error Layout :=
  if s.possible.any (·.required) then .error .missingColon else .ok { s with possible := none }

/-- A key may have started here. -/
def rememberKey (s : Layout) : Except Error Layout :=
  if s.keyAllowed then do
    let s ← s.forgetKey
    let c := s.cursor
    return { s with
      possible := some ⟨s.tokens.size, c.index, c.line, c.column,
        !s.inFlow && s.indent = (c.column : Int)⟩ }
  else .ok s

/-- Whether a possible key is too far back: a key is on one line and at most 1024 characters
long. -/
def isStale (c : Cursor) (k : PossibleKey) : Bool := k.line < c.line || k.index + 1024 < c.index

/-- The possible keys that are too far back given up; a required one cannot be. -/
def forgetStale (s : Layout) : Except Error Layout :=
  let stale := isStale s.cursor
  if (s.possible :: s.enclosing).any fun k => k.any fun k => k.required && stale k then
    .error .missingColon
  else
    .ok { s with
      possible := s.possible.filter (fun k => !stale k)
      enclosing := s.enclosing.map fun k => k.filter (fun k => !stale k) }

/-- A block collection opened at a column, unless one is already open there or the place is inside
brackets.  Its first token goes to a position, or to the end. -/
def openBlock (s : Layout) (column : Nat) (position : Option Nat) (t : Token) : Layout :=
  if s.inFlow || (column : Int) ≤ s.indent then s
  else
    let s := { s with outer := s.indent :: s.outer, indent := column }
    match position with
    | none => s.push t
    | some n => s.insert n t

/-- The block collections deeper than a column closed. -/
def closeBlocks (column : Int) : List Int → Layout → Layout
  | outer, s =>
    if s.indent ≤ column then s
    else
      match outer with
      | [] => s
      | k :: outer => closeBlocks column outer { s.push .blockEnd with indent := k, outer := outer }

/-- The block collections deeper than a column closed, unless the place is inside brackets. -/
def unindent (s : Layout) (column : Int) : Layout :=
  if s.inFlow then s else closeBlocks column s.outer s

/-- All block collections closed, and no key possible: what a document marker, a directive and the
end of the text do.  Inside brackets nothing is closed. -/
def endDocument (s : Layout) : Except Error Layout := do
  let s ← (s.unindent (-1)).forgetKey
  return { s with keyAllowed := false }

/-- A token of so many characters, after which a key may or may not start. -/
def indicator (s : Layout) (t : Token) (width : Nat) (keyAllowed : Bool) : Layout :=
  { s.push t with cursor := s.cursor.advance width, keyAllowed := keyAllowed }

/-- An opening bracket, which may start a key itself. -/
def openFlow (s : Layout) (t : Token) : Except Error Layout := do
  let s ← s.rememberKey
  return { s.indicator t 1 true with possible := none, enclosing := s.possible :: s.enclosing }

/-- A closing bracket. -/
def closeFlow (s : Layout) (t : Token) : Except Error Layout := do
  let s ← s.forgetKey
  let s :=
    match s.enclosing with
    | [] => s
    | k :: rest => { s with possible := k, enclosing := rest }
  return s.indicator t 1 false

/-- A comma between the entries in brackets. -/
def flowEntry (s : Layout) : Except Error Layout := do
  let s ← s.forgetKey
  return s.indicator .flowEntry 1 true

/-- A hyphen before an entry of a list. -/
def blockEntry (s : Layout) : Except Error Layout := do
  if !s.inFlow && !s.keyAllowed then throw .misplacedIndicator
  let s ← (s.openBlock s.cursor.column none .blockSequenceStart).forgetKey
  return s.indicator .blockEntry 1 true

/-- A question mark before a key. -/
def explicitKey (s : Layout) : Except Error Layout := do
  if !s.inFlow && !s.keyAllowed then throw .misplacedIndicator
  let s ← (s.openBlock s.cursor.column none .blockMappingStart).forgetKey
  return s.indicator .key 1 (!s.inFlow)

/-- A colon before a value: it makes the possible key, if there is one, a key. -/
def value (s : Layout) : Except Error Layout :=
  match s.possible with
  | some k =>
    let s := (s.insert k.position .key).openBlock k.column (some k.position) .blockMappingStart
    .ok ({ s with possible := none }.indicator .value 1 false)
  | none =>
    if !s.inFlow && !s.keyAllowed then .error .misplacedIndicator
    else
      let s := s.openBlock s.cursor.column none .blockMappingStart
      .ok (s.indicator .value 1 (!s.inFlow))

/-- A token that may start a key and after which none may start. -/
def content (s : Layout) (read : Cursor → Except Error (Token × Cursor)) : Except Error Layout := do
  let s ← s.rememberKey
  let (t, c) ← read s.cursor
  return { s.push t with cursor := c, keyAllowed := false }

/-- A block scalar, after which a key may start. -/
def blockScalar (s : Layout) (literal : Bool) : Except Error Layout := do
  let s ← s.forgetKey
  let (text, c) ← Block.read literal s.indent s.cursor
  return { s.push (.scalar text false) with cursor := c, keyAllowed := true }

/-- A quoted scalar. -/
def quotedScalar (s : Layout) (single : Bool) : Except Error Layout :=
  s.content fun c => do
    let (text, c) ← Quoted.read single c
    return (.scalar text false, c)

/-- A plain scalar; if it was followed over a line's end, a key may start after it. -/
def plainScalar (s : Layout) : Except Error Layout := do
  let s ← s.rememberKey
  let (text, c, broken) ← Plain.read s.inFlow s.indent s.cursor
  return { s.push (.scalar text true) with cursor := c, keyAllowed := broken }

/-- A directive line. -/
def directive (s : Layout) : Except Error Layout := do
  let s ← s.endDocument
  let (t, c) ← Property.readDirective s.cursor
  return { s.push t with cursor := c }

/-- Past the blanks, comments and line breaks before the next token.  A tab may not stand where
indentation is counted; a byte order mark may start a line, and takes a column of it. -/
def skipGap : Nat → Layout → Layout
  | 0, s => s
  | n + 1, s =>
    let c := s.cursor
    let c := if c.column = 0 && c.sees 0 '\ufeff' then c.advance 1 else c
    let tabs := s.inFlow || !s.keyAllowed
    let c := c.advanceWhile fun x => x = ' ' || (tabs && x = '\t')
    let c := if c.sees 0 '#' then c.advanceWhile (fun x => !isBreak x) else c
    if c.seesClass 0 isBreak then
      skipGap n { s with cursor := c.takeBreak.2, keyAllowed := s.keyAllowed || !s.inFlow }
    else { s with cursor := c }

/-- Whether a plain scalar may start at the cursor. -/
def startsPlain (s : Layout) (x : Char) : Bool :=
  let c := s.cursor
  if x = '-' then !c.seesClass 1 isBlank
  else if x = '?' || x = ':' then !s.inFlow && !c.seesGap 1
  else
    !(isBlank x || isFlowIndicator x || x = '#' || x = '&' || x = '*' || x = '!' || x = '|' || x = '>' ||
      x = '\x27' || x = '\x22' || x = '%' || x = '@' || x = '\x60')

/-- The token that starts with a character. -/
def token (s : Layout) (x : Char) : Except Error Layout :=
  let c := s.cursor
  if c.column = 0 && x = '%' then s.directive
  else if c.atMarker '-' then do
    return (← s.endDocument).indicator .documentStart 3 false
  else if c.atMarker '.' then do
    return (← s.endDocument).indicator .documentEnd 3 false
  else if x = '[' then s.openFlow .flowSequenceStart
  else if x = '\x7b' then s.openFlow .flowMappingStart
  else if x = ']' then s.closeFlow .flowSequenceEnd
  else if x = '\x7d' then s.closeFlow .flowMappingEnd
  else if x = ',' then s.flowEntry
  else if x = '-' && c.seesGap 1 then s.blockEntry
  else if x = '?' && (s.inFlow || c.seesGap 1) then s.explicitKey
  else if x = ':' && (s.inFlow || c.seesGap 1) then s.value
  else if x = '*' then
    s.content fun c => do
      let (name, c) ← Property.readName c
      return (.aliasTo name, c)
  else if x = '&' then
    s.content fun c => do
      let (name, c) ← Property.readName c
      return (.anchor name, c)
  else if x = '!' then s.content (Property.readTag s.inFlow)
  else if x = '|' && !s.inFlow then s.blockScalar true
  else if x = '>' && !s.inFlow then s.blockScalar false
  else if x = '\x27' then s.quotedScalar true
  else if x = '\x22' then s.quotedScalar false
  else if s.startsPlain x then s.plainScalar
  else .error .strayCharacter

/-- One token more; at the end of the text the open blocks are closed. -/
def next (s : Layout) : Except Error (Layout × Bool) := do
  let s := skipGap (s.cursor.size + 1) s
  let s ← s.forgetStale
  let s := s.unindent s.cursor.column
  match s.cursor.head with
  | none => return (← s.endDocument, true)
  | some x => return (← s.token x, false)

/-- The tokens of the rest of the text. -/
def run : Nat → Layout → Except Error (Array Token)
  | 0, s => .ok s.tokens
  | n + 1, s => do
    let (s, finished) ← s.next
    if finished then return s.tokens else run n s

end Layout

/-- The tokens of a text. -/
def Token.ofText (text : String) : Except Error (List Token) := do
  let cs := text.toList
  if !cs.all isAllowed then throw .forbiddenCharacter
  return (← (Layout.initial cs).run (cs.length + 2)).toList

end CwlCompliance.Yaml
