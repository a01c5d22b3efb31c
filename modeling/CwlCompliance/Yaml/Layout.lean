import CwlCompliance.Yaml.ScalarStyle

/-!
# Values in block layout

The text of a value in block layout: one entry or item a line, two spaces deeper for each level,
except that the items of a list under a key are no deeper than the key.

## Main definitions

* `Place` — where a node stands, which decides how it starts.
* `Value.layout` — the text of a value.
-/

namespace CwlCompliance.Yaml

/-- Where a node stands. -/
inductive Place where
  /-- It is the whole text. -/
  | root
  /-- It follows the dash of an item. -/
  | item
  /-- It follows the colon of a key. -/
  | value
  /-- It follows a question mark or colon that stands on a line of its own. -/
  | mark
  deriving DecidableEq, Repr

/-- What stands between an indicator and a node on the same line. -/
def Place.gap : Place → List Char
  | .root => []
  | _ => [' ']

namespace Value

/-! ### Tags -/

/-- Whether a character of a tag needs no escape. -/
def isTagChar (c : Char) : Bool := c.isAlphanum || "-_;/?:@&=+$,.~*\x27()[]".toList.contains c

/-- A byte of a tag as an escape. -/
def tagEscape (b : UInt8) : List Char := '%' :: Scalar.capitalHex 2 b.toNat

/-- The name of a tag, what needs it escaped. -/
def tagName (name : String) : List Char :=
  name.toList.flatMap fun c =>
    if isTagChar c then [c] else (String.singleton c).toUTF8.toList.flatMap tagEscape

/-- A local tag as it is written; the tag without a name has a form of its own. -/
def tagText (name : String) : List Char :=
  if name = "!" then "!<%21>".toList else '!' :: tagName name

/-! ### Nodes on one line -/

/-- The text of a node that needs no lines of its own: a scalar or an empty collection.  Further
lines of a scalar start at a depth. -/
def flat? (indent : Nat) : Value → Option (List Char)
  | null => some "null".toList
  | bool b => some (if b then "true" else "false").toList
  | number n => some n.text.toList
  | string s => some (Scalar.written indent (.ofText s) s)
  | sequence [] => some "[]".toList
  | mapping [] => some "\x7b\x7d".toList
  | _ => none

/-- The length in bytes by which a key is judged: of its text, not of how that is written. -/
def keyLength? : Value → Option Nat
  | tagged t v => (keyLength? v).map (· + 1 + t.utf8ByteSize)
  | string s => if s.toList.any Character.isBreak then none else some s.utf8ByteSize
  | sequence [] => some 0
  | mapping [] => some 0
  | v => (v.flat? 0).map List.length

/-- Whether a key is short enough to stand before its colon on one line. -/
def isSimpleKey (v : Value) : Bool := v.keyLength?.any (· ≤ 128)

/-! ### Nodes -/

/-- A node on one line after its indicator, to the end of the line.  A block of lines may end its
own last line. -/
def leaf (place : Place) (indent : Nat) (tag : List Char) (v : Value) : List Char :=
  let cs := (v.flat? (indent + 2)).getD []
  tag ++ (if tag.isEmpty then place.gap else [' ']) ++ cs ++
    if cs.getLast?.any Character.isBreak then [] else ['\n']

/-- A key before its colon. -/
def key : Value → List Char
  | tagged t v => tagText t ++ ' ' :: key v
  | v => (v.flat? 0).getD []

/-- The depth of the items of a list whose indicator stands at a depth, with a tag or not. -/
def itemIndent (place : Place) (hasTag : Bool) (indent : Nat) : Nat :=
  match place with
  | .root => 0
  | .value => indent
  | .item => indent + 2
  | .mark => if hasTag then indent else indent + 2

/-- The depth of the entries of a mapping whose indicator stands at a depth. -/
def entryIndent (place : Place) (indent : Nat) : Nat :=
  match place with
  | .root => 0
  | _ => indent + 2

/-- What stands between the indicator of a collection and its first line, which is at a depth: the
first line goes on after a dash or a mark, unless there is a tag. -/
def opening (place : Place) (tag : List Char) (depth : Nat) : List Char :=
  if !tag.isEmpty then tag ++ '\n' :: Scalar.padding depth
  else
    match place with
    | .root => []
    | .value => '\n' :: Scalar.padding depth
    | .item => [' ']
    | .mark => [' ']

mutual

/-- A node after its indicator, to the end of its last line.  The indicator stands at a depth, and
`tag` is what precedes the node. -/
def node (place : Place) (indent : Nat) (tag : List Char) : Value → List Char
  | tagged t v => node place indent (place.gap ++ tagText t) v
  | sequence (v :: rest) =>
    let depth := itemIndent place (!tag.isEmpty) indent
    opening place tag depth ++ '-' :: node .item depth [] v ++ items depth rest
  | mapping (e :: rest) =>
    let depth := entryIndent place indent
    opening place tag depth ++ entry depth e ++ entries depth rest
  | v => leaf place indent tag v

/-- The further items of a list at a depth. -/
def items (depth : Nat) : List Value → List Char
  | [] => []
  | v :: rest => Scalar.padding depth ++ '-' :: node .item depth [] v ++ items depth rest

/-- The further entries of a mapping at a depth. -/
def entries (depth : Nat) : List (Value × Value) → List Char
  | [] => []
  | e :: rest => Scalar.padding depth ++ entry depth e ++ entries depth rest

/-- An entry of a mapping at a depth, but for the start of its first line. -/
def entry (depth : Nat) : Value × Value → List Char
  | (k, v) =>
    if k.isSimpleKey then key k ++ ':' :: node .value depth [] v
    else
      '?' :: node .mark depth [] k ++ Scalar.padding depth ++ ':' :: node .mark depth [] v

end

/-- The text of a value. -/
def layout (v : Value) : String := String.ofList (node .root 0 [] v)

end Value

end CwlCompliance.Yaml
