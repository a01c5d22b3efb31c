import CwlCompliance.Toml.Scalar

/-!
# Reading TOML

A TOML text is a sequence of lines, each blank, a header, or a key with a value.

## Main definitions

* `Toml.key?` — a key with dots.
* `Toml.value?` — a value.
* `Toml.read?` — the table that a text writes, or nothing if it is malformed.
-/

namespace CwlCompliance.Toml

/-- The deepest nesting of collections, and the longest key. -/
def depthLimit : Nat := 80

/-! ### Keys -/

/-- The characters of a key without quotes. -/
def isKeyChar (c : Char) : Bool := c.isAlphanum || c = '_' || c = '-'

/-- A part of a key. -/
def keyPart? : Reader String
  | [] => none
  | c :: rest =>
    if c = '\x22' ∨ c = '\x27' then quotedText? c (rest.length + 1) [] rest
    else
      let name := (c :: rest).takeWhile isKeyChar
      if name.isEmpty then none else some (String.ofList name, (c :: rest).drop name.length)

/-- The parts of a key with dots.  `fuel` bounds their number. -/
def keyParts? : Nat → Reader (List String)
  | 0, _ => none
  | fuel + 1, cs => do
    let (part, rest) ← keyPart? (skipBlanks cs)
    match skipBlanks rest with
    | '.' :: rest => do
      let (parts, rest) ← keyParts? fuel rest
      return (part :: parts, rest)
    | rest => return ([part], rest)

/-- A key with dots: all but its last part, and that.  Blanks around it are read too. -/
def key? : Reader (List String × String) := fun cs => do
  let (parts, rest) ← keyParts? depthLimit cs
  if depthLimit ≤ parts.length then none
  let last ← parts.getLast?
  return ((parts.dropLast, last), rest)

/-! ### Comments and blank lines -/

/-- What follows a comment, if one starts here; nothing if it holds a control character. -/
def skipComment? : List Char → Option (List Char)
  | '#' :: rest =>
    match rest.dropWhile isText with
    | [] => some []
    | '\n' :: after => some ('\n' :: after)
    | '\r' :: '\n' :: after => some ('\r' :: '\n' :: after)
    | _ => none
  | cs => some cs

/-- What follows blanks, comments and line breaks.  `fuel` bounds the lines. -/
def skipSpace? : Nat → List Char → Option (List Char)
  | 0, _ => none
  | fuel + 1, cs => do
    let cs ← skipComment? (skipBlanks cs)
    match newline? cs with
    | some (_, rest) => skipSpace? fuel rest
    | none => return cs

/-- What follows blanks, perhaps a comment, and the end of a line or of the text. -/
def endLine? (cs : List Char) : Option (List Char) := do
  let cs ← skipComment? (skipBlanks cs)
  match cs with
  | [] => return []
  | cs => return (← newline? cs).2

/-! ### Values -/

/-- A value that is no collection. -/
def scalar? : Reader Value
  | 't' :: 'r' :: 'u' :: 'e' :: rest => some (.boolean true, rest)
  | 'f' :: 'a' :: 'l' :: 's' :: 'e' :: rest => some (.boolean false, rest)
  | cs =>
    match cs with
    | '\x22' :: _ => (string? '\x22' cs).map fun (s, rest) => (.string s, rest)
    | '\x27' :: _ => (string? '\x27' cs).map fun (s, rest) => (.string s, rest)
    | _ => (datetime? cs).or (number? cs)

mutual

/-- A value at a depth.  `fuel` bounds the steps. -/
def value? : Nat → Nat → Reader Value
  | 0, _, _ => none
  | fuel + 1, depth, cs =>
    match cs with
    | '[' :: rest =>
      if depthLimit ≤ depth + 1 then none
      else (items? fuel (depth + 1) rest).map fun (vs, rest) => (.array vs, rest)
    | '\x7b' :: rest =>
      if depthLimit ≤ depth + 1 then none
      else
        match skipBlanks rest with
        | '\x7d' :: rest => some (.table [], rest)
        | rest => (pairs? fuel (depth + 1) (.empty false false) rest).map fun (t, rest) =>
          (.table t.toEntries, rest)
    | cs => scalar? cs

/-- The items of an array up to its bracket. -/
def items? : Nat → Nat → Reader (List Value)
  | 0, _, _ => none
  | fuel + 1, depth, cs => do
    let cs ← skipSpace? (cs.length + 1) cs
    match cs with
    | ']' :: rest => return ([], rest)
    | cs => do
      let (v, rest) ← value? fuel depth cs
      let rest ← skipSpace? (rest.length + 1) rest
      match rest with
      | ',' :: rest => do
        let (vs, rest) ← items? fuel depth rest
        return (v :: vs, rest)
      | ']' :: rest => return ([v], rest)
      | _ => none

/-- The pairs of a table on one line up to its brace, put into a table. -/
def pairs? : Nat → Nat → Table → Reader Table
  | 0, _, _, _ => none
  | fuel + 1, depth, t, cs => do
    let ((path, key), rest) ← key? cs
    let (_, rest) ← mark? '=' rest
    let (v, rest) ← value? fuel depth (skipBlanks rest)
    let t ← t.insertAt path key v
    match skipBlanks rest with
    | ',' :: rest => pairs? fuel depth t rest
    | '\x7d' :: rest => return (t, rest)
    | _ => none

end

/-! ### Lines -/

/-- What is read so far: the table at the top, and the keys of the last header. -/
structure Progress where
  /-- The table at the top. -/
  root : Table := .empty false false
  /-- The keys of the last header. -/
  header : List String := []

/-- What is read after a header. -/
def Progress.addHeader (p : Progress) (isElement : Bool) (path : List String) (key : String) :
    Option Progress := do
  let root ← if isElement then p.root.openElement path key else p.root.openTable path key
  return { root, header := path ++ [key] }

/-- What is read after a key with a value. -/
def Progress.addPair (p : Progress) (path : List String) (key : String) (v : Value) :
    Option Progress := do
  return { p with root := ← p.root.modifyAt false p.header (Table.insertAt path key v) }

/-- What is read after the line that starts here, and what follows the line. -/
def line? (p : Progress) : Reader Progress := fun cs =>
  match cs with
  | '[' :: '[' :: rest => do
    let ((path, key), rest) ← key? rest
    let (_, rest) ← mark? ']' rest
    let (_, rest) ← mark? ']' rest
    return (← p.addHeader true path key, ← endLine? rest)
  | '[' :: rest => do
    let ((path, key), rest) ← key? rest
    let (_, rest) ← mark? ']' rest
    return (← p.addHeader false path key, ← endLine? rest)
  | cs => do
    let ((path, key), rest) ← key? cs
    let (_, rest) ← mark? '=' rest
    let (v, rest) ← value? (2 * rest.length + 4) 0 (skipBlanks rest)
    return (← p.addPair path key v, ← endLine? rest)

/-- What is read after all lines.  `fuel` bounds their number. -/
def lines? : Nat → Progress → List Char → Option Progress
  | 0, _, _ => none
  | fuel + 1, p, cs => do
    match ← skipSpace? (cs.length + 1) cs with
    | [] => return p
    | cs => do
      let (p, rest) ← line? p cs
      lines? fuel p rest

/-- The entries of the table that a text writes.  A mark of the byte order at its start is skipped. -/
def read? (s : String) : Option (List (String × Value)) :=
  let cs := match s.toList with
    | '\ufeff' :: rest => rest
    | cs => cs
  (lines? (cs.length + 1) {} cs).map fun p => p.root.toEntries

end CwlCompliance.Toml
