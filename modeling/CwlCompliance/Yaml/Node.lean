import CwlCompliance.Text.Utf8
import CwlCompliance.Yaml.Error
import CwlCompliance.Yaml.Token

/-!
# The tree of a YAML document

Tokens put together as the tree they write: scalars, lists and mappings, each perhaps with an
anchor and a tag, and aliases that stand for anchored nodes.

## Main definitions

* `Node` — the tree, over a type that says what an alias names.
* `Node.ofTokens` — the one document that tokens write, or `none` for a text without any.
-/

namespace CwlCompliance.Yaml

/-- What may be said of a node besides its content. -/
structure Properties where
  /-- The name under which aliases mention it. -/
  anchor : Option String := none
  /-- Its tag, with the handle replaced by what it stands for. -/
  tag : Option TagBytes := none
  deriving DecidableEq, Repr

/-- A node of a document whose aliases are named by `α`. -/
inductive Node (α : Type) where
  /-- The node that was anchored elsewhere. -/
  | aliasTo (name : α)
  /-- A scalar, and whether it was written without quotes or block heading. -/
  | scalar (properties : Properties) (text : String) (plain : Bool)
  /-- A list. -/
  | sequence (properties : Properties) (items : List (Node α))
  /-- A mapping, its entries in the order of the text. -/
  | mapping (properties : Properties) (entries : List (Node α × Node α))

namespace Node

/-- The node that is written by nothing. -/
def empty : Node String := .scalar {} "" true

/-- What tag handles stand for, the first declaration of a handle winning. -/
abbrev Handles := List (String × TagBytes)

/-- The handles that every document knows. -/
def standardHandles : Handles := 
  [("!", Utf8.encode "!"), ("!!", Utf8.encode "tag:yaml.org,2002:")]

/-- The part of a tag that counts: a zero byte ends it. -/
def effective (part : TagBytes) : TagBytes := part.takeWhile (· ≠ 0)

/-- A tag with its handle replaced. -/
def expandTag (handles : Handles) (handle : String) (suffix : TagBytes) : Except Error TagBytes :=
  if handle.isEmpty then .ok (effective suffix)
  else
    match handles.lookup handle with
    | some start => .ok (effective start ++ effective suffix)
    | none => .error .undeclaredHandle

/-- The anchor and tag before a node's content, in either order. -/
def properties (handles : Handles) : List Token → Except Error (Properties × List Token)
  | .anchor a :: .tag h s :: rest => do
    return ({ anchor := some a, tag := some (← expandTag handles h s) }, rest)
  | .tag h s :: .anchor a :: rest => do
    return ({ anchor := some a, tag := some (← expandTag handles h s) }, rest)
  | .anchor a :: rest => .ok ({ anchor := some a }, rest)
  | .tag h s :: rest => do return ({ tag := some (← expandTag handles h s) }, rest)
  | rest => .ok ({}, rest)

/-- Whether a token ends a place of a block collection that may be left empty. -/
def endsBlockPlace : Token → Bool
  | .blockEntry | .key | .value | .blockEnd => true
  | _ => false

/-- Whether a token ends the key or value of a block mapping that was left empty. -/
def endsBlockPair : Token → Bool
  | .key | .value | .blockEnd => true
  | _ => false

/-- Whether a token ends the entry of a block list that was left empty. -/
def endsBlockItem : Token → Bool
  | .blockEntry | .blockEnd => true
  | _ => false

/-- How deeply collections may be nested. -/
def depthLimit : Nat := 128

mutual

/-- The node at the start of the tokens, inside `depth` collections.  Block collections are read
only where `block` allows them, and a list at the indentation of its key only where `indentless`
does. -/
def read (handles : Handles) :
    Nat → Nat → Bool → Bool → List Token → Except Error (Node String × List Token)
  | 0, _, _, _, _ => .error .unexpectedToken
  | n + 1, depth, block, indentless, tokens => do
    if let .aliasTo name :: rest := tokens then return (.aliasTo name, rest)
    let (p, tokens) ← properties handles tokens
    match tokens with
    | .scalar text plain :: rest => return (.scalar p text plain, rest)
    | t :: rest =>
      let collection :=
        match t with
        | .blockEntry => indentless
        | .flowSequenceStart | .flowMappingStart => true
        | .blockSequenceStart | .blockMappingStart => block
        | _ => false
      if !collection then
        if p = {} then throw .unexpectedToken else return (.scalar p "" true, tokens)
      else if depth = depthLimit then throw .tooDeep
      else
        match t with
        | .blockEntry =>
          let (items, rest) ← readIndentless handles n (depth + 1) tokens
          return (.sequence p items, rest)
        | .blockSequenceStart =>
          let (items, rest) ← readBlockItems handles n (depth + 1) rest
          return (.sequence p items, rest)
        | .blockMappingStart =>
          let (entries, rest) ← readBlockEntries handles n (depth + 1) rest
          return (.mapping p entries, rest)
        | .flowSequenceStart =>
          let (items, rest) ← readFlowItems handles n (depth + 1) true rest
          return (.sequence p items, rest)
        | _ =>
          let (entries, rest) ← readFlowEntries handles n (depth + 1) true rest
          return (.mapping p entries, rest)
    | [] => if p = {} then throw .unexpectedToken else return (.scalar p "" true, [])

/-- The node at the start of the tokens, or the empty one before a token that ends its place. -/
def readUnless (handles : Handles) :
    Nat → Nat → Bool → (Token → Bool) → List Token → Except Error (Node String × List Token)
  | 0, _, _, _, _ => .error .unexpectedToken
  | n + 1, depth, block, ends, tokens =>
    if tokens.head?.any ends then .ok (empty, tokens)
    else read handles n depth block (block && !ends .blockEntry) tokens

/-- The entries of a block list up to its end. -/
def readBlockItems (handles : Handles) :
    Nat → Nat → List Token → Except Error (List (Node String) × List Token)
  | 0, _, _ => .error .unexpectedToken
  | n + 1, depth, tokens =>
    match tokens with
    | .blockEntry :: rest => do
      let (item, rest) ← readUnless handles n depth true endsBlockItem rest
      let (items, rest) ← readBlockItems handles n depth rest
      return (item :: items, rest)
    | .blockEnd :: rest => .ok ([], rest)
    | _ => .error .unexpectedToken

/-- The entries of a list at the indentation of its key. -/
def readIndentless (handles : Handles) :
    Nat → Nat → List Token → Except Error (List (Node String) × List Token)
  | 0, _, _ => .error .unexpectedToken
  | n + 1, depth, tokens =>
    match tokens with
    | .blockEntry :: rest => do
      let (item, rest) ← readUnless handles n depth true endsBlockPlace rest
      let (items, rest) ← readIndentless handles n depth rest
      return (item :: items, rest)
    | _ => .ok ([], tokens)

/-- The entries of a block mapping up to its end. -/
def readBlockEntries (handles : Handles) :
    Nat → Nat → List Token → Except Error (List (Node String × Node String) × List Token)
  | 0, _, _ => .error .unexpectedToken
  | n + 1, depth, tokens =>
    match tokens with
    | .key :: rest => do
      let (key, rest) ← readUnless handles n depth true endsBlockPair rest
      let (value, rest) ←
        match rest with
        | .value :: rest => readUnless handles n depth true endsBlockPair rest
        | _ => pure (empty, rest)
      let (entries, rest) ← readBlockEntries handles n depth rest
      return ((key, value) :: entries, rest)
    | .blockEnd :: rest => .ok ([], rest)
    | _ => .error .unexpectedToken

/-- The entries of a list in brackets up to its end.  A key among them makes a mapping of one
entry; where that key is empty, the token in its place is dropped. -/
def readFlowItems (handles : Handles) :
    Nat → Nat → Bool → List Token → Except Error (List (Node String) × List Token)
  | 0, _, _, _ => .error .unexpectedToken
  | n + 1, depth, first, tokens => do
    if let .flowSequenceEnd :: rest := tokens then return ([], rest)
    let tokens ←
      match first, tokens with
      | true, tokens => pure tokens
      | false, .flowEntry :: rest => pure rest
      | false, _ => throw .unexpectedToken
    match tokens with
    | .flowSequenceEnd :: rest => return ([], rest)
    | .key :: rest =>
      if depth = depthLimit then throw .tooDeep
      let ends := fun t => t = .flowEntry || t = .flowSequenceEnd
      let (key, rest) ←
        match rest with
        | t :: more =>
          if t = .value || ends t then pure (empty, more)
          else read handles n (depth + 1) false false rest
        | [] => throw .unexpectedToken
      let (value, rest) ←
        match rest with
        | .value :: rest => readUnless handles n (depth + 1) false ends rest
        | _ => pure (empty, rest)
      let (items, rest) ← readFlowItems handles n depth false rest
      return (.mapping {} [(key, value)] :: items, rest)
    | _ =>
      let (item, rest) ← read handles n depth false false tokens
      let (items, rest) ← readFlowItems handles n depth false rest
      return (item :: items, rest)

/-- The entries of a mapping in brackets up to its end. -/
def readFlowEntries (handles : Handles) :
    Nat → Nat → Bool → List Token → Except Error (List (Node String × Node String) × List Token)
  | 0, _, _, _ => .error .unexpectedToken
  | n + 1, depth, first, tokens => do
    if let .flowMappingEnd :: rest := tokens then return ([], rest)
    let tokens ←
      match first, tokens with
      | true, tokens => pure tokens
      | false, .flowEntry :: rest => pure rest
      | false, _ => throw .unexpectedToken
    let ends := fun t => t = .flowEntry || t = .flowMappingEnd
    match tokens with
    | .flowMappingEnd :: rest => return ([], rest)
    | .key :: rest =>
      let (key, rest) ← readUnless handles n depth false (fun t => t = .value || ends t) rest
      let (value, rest) ←
        match rest with
        | .value :: rest => readUnless handles n depth false ends rest
        | _ => pure (empty, rest)
      let (entries, rest) ← readFlowEntries handles n depth false rest
      return ((key, value) :: entries, rest)
    | _ =>
      let (key, rest) ← read handles n depth false false tokens
      let (entries, rest) ← readFlowEntries handles n depth false rest
      return ((key, empty) :: entries, rest)

end

/-- The tag handles that the directives before a document declare, and the tokens after them. -/
def readDirectives : Handles → Bool → List Token → Except Error (Handles × List Token)
  | handles, versioned, .versionDirective major minor :: rest =>
    if versioned then .error .repeatedDirective
    else if major = 1 ∧ (minor = 1 ∨ minor = 2) then readDirectives handles true rest
    else .error .unsupportedVersion
  | handles, versioned, .tagDirective handle start :: rest =>
    if (handles.lookup handle).isSome then .error .repeatedDirective
    else readDirectives (handles ++ [(handle, start)]) versioned rest
  | handles, _, rest => .ok (handles, rest)

/-- Whether a token ends a document that was left empty. -/
def endsDocument : Token → Bool
  | .versionDirective .. | .tagDirective .. | .documentStart | .documentEnd => true
  | _ => false

/-- The one document that tokens write, if they write any. -/
def ofTokens (tokens : List Token) : Except Error (Option (Node String)) := do
  let bound := 4 * tokens.length + 4
  let explicit :=
    match tokens with
    | .versionDirective .. :: _ | .tagDirective .. :: _ | .documentStart :: _ => true
    | _ => false
  if tokens.isEmpty then return none
  let (node, rest) ←
    if explicit then do
      let (handles, rest) ← readDirectives [] false tokens
      match rest with
      | .documentStart :: rest =>
        if rest.isEmpty || rest.head?.any endsDocument then pure (empty, rest)
        else read (handles ++ standardHandles) bound 0 true false rest
      | _ => throw .unexpectedToken
    else read standardHandles bound 0 true false tokens
  if (rest.dropWhile (· = .documentEnd)).isEmpty then return some node
  throw .severalDocuments

end Node

end CwlCompliance.Yaml
