import CwlCompliance.Logging.Pattern.Basic
import CwlCompliance.Text.Alphanumeric
import CwlCompliance.Text.Blank

/-!
# Reading patterns

The pattern that a text writes.  In a directive a pattern stands inside braces, so it holds no closing
brace: an opening one outside brackets is never closed, and makes the text no pattern.

## Main definitions

* `Pattern.escape?` — what a backslash and the characters after it stand for.
* `Pattern.brackets?` — what brackets hold.
* `Pattern.ofText?` — the pattern that a text writes.
-/

namespace CwlCompliance.Pattern

/-! ### Blanks and comments -/

/-- What is left after blanks and comments; `inComment` says that a comment has begun. -/
def skipBlanks (inComment : Bool) : List Char → List Char
  | [] => []
  | c :: rest =>
    if inComment then skipBlanks (c ≠ '\n') rest
    else if c = '#' then skipBlanks true rest
    else if Text.isSpace c then skipBlanks false rest
    else c :: rest

/-- What is left after blanks and comments, if they are skipped. -/
def skip (spaced : Bool) (cs : List Char) : List Char := if spaced then skipBlanks false cs else cs

/-- What is left after blanks and comments, if it is something. -/
def skipTo? (spaced : Bool) (cs : List Char) : Option (List Char) :=
  match skip spaced cs with
  | [] => none
  | rest => some rest

/-- The first character that is not blank; one number sign does not count. -/
def peekPast (passed : Bool) : List Char → Option Char
  | [] => none
  | c :: rest =>
    if Text.isSpace c then peekPast passed rest
    else if c = '#' ∧ !passed then peekPast true rest
    else some c

/-- The next character that counts. -/
def peek? (spaced : Bool) (cs : List Char) : Option Char :=
  if spaced then (peekPast false cs).or cs.head? else cs.head?

/-! ### Escapes -/

/-- The value of a hexadecimal digit. -/
def hexValue? (c : Char) : Option Nat :=
  if c.isDigit then some (c.toNat - 48)
  else if 'a' ≤ c ∧ c ≤ 'f' then some (c.toNat - 87)
  else if 'A' ≤ c ∧ c ≤ 'F' then some (c.toNat - 55)
  else none

/-- The number that so many digits write after another number, and what is left. -/
def hexDigits? (spaced : Bool) : Nat → Nat → List Char → Option (Nat × List Char)
  | 0, n, cs => some (n, cs)
  | _ + 1, _, [] => none
  | more + 1, n, c :: rest => do
    let n := n * 16 + (← hexValue? c)
    let rest := skip spaced rest
    if more = 0 then some (n, rest) else hexDigits? spaced more n rest

/-- How many digits follow a letter that announces them. -/
def digitCount? (c : Char) : Option Nat := [('x', 2), ('u', 4), ('U', 8)].lookup c

/-- The letters that stand for a control character after a backslash. -/
def controls : List (Char × Char) := [
  ('a', '\x07'), ('f', '\x0c'), ('t', '\t'), ('n', '\n'), ('r', '\r'), ('v', '\x0b')]

/-- The characters that stand for a place at a word after a backslash. -/
def wordPlaces : List Char := ['b', 'B', '<', '>']

/-- What follows a backslash, and what is left.  All of ASCII but letters and digits stands for
itself; a brace after the place of a word is never closed. -/
def escape? (spaced : Bool) : List Char → Option (Pattern × List Char)
  | [] => none
  | c :: rest =>
    match digitCount? c with
    | some count => do
      let (n, rest) ← hexDigits? spaced count 0 (← skipTo? spaced rest)
      if n.isValidChar then some (.literal ⟨Char.ofNat n, count = 2⟩, rest) else none
    | none =>
      if ['d', 's', 'w'].contains c then some (.shorthand false, rest)
      else if ['D', 'S', 'W'].contains c then some (.shorthand true, rest)
      else if ['A', 'z'].contains c then some (.place false, rest)
      else if wordPlaces.contains c then
        if c = 'b' ∧ rest.head? = some '\x7b' then none else some (.place true, rest)
      else
        match controls.lookup c with
        | some control => some (.literal { char := control }, rest)
        | none => if c.toNat < 0x80 ∧ !c.isAlphanum then some (.literal { char := c }, rest) else none

/-! ### Brackets -/

/-- Brackets that are still open. -/
inductive OpenBrackets where
  /-- They have begun after these members of the brackets around them, the last of which is first. -/
  | begun (before : List Members) (negated : Bool)
  /-- They combine these members with the ones that follow. -/
  | combining (left : Members)

/-- Members as one. -/
def Members.ofList : List Members → Members
  | [m] => m
  | list => .union list

/-- The members after the ones with which they are combined, and what is open around them. -/
def closeCombined (right : Members) : List OpenBrackets → Members × List OpenBrackets
  | .combining left :: rest => (.combined left right, rest)
  | stack => (right, stack)

/-- The names of the classes of ASCII. -/
def classNames : List String := [
  "alnum", "alpha", "ascii", "blank", "cntrl", "digit", "graph", "lower", "print", "punct", "space",
  "upper", "word", "xdigit"]

/-- Whether a named class, after its bracket, is negated, and what is left. -/
def named? (cs : List Char) : Option (Bool × List Char) :=
  match cs with
  | ':' :: rest =>
    let negated := rest.head? = some '^'
    let rest := if negated then rest.drop 1 else rest
    let name := rest.takeWhile (· ≠ ':')
    match rest.drop name.length with
    | ':' :: ']' :: rest =>
      if classNames.contains (String.ofList name) then some (negated, rest) else none
    | _ => none
  | _ => none

/-- The hyphens at the start of brackets, each a member, and what is left. -/
def leadingHyphens? (spaced : Bool) : Nat → List Char → Option (List Members × List Char)
  | 0, _ => none
  | _ + 1, [] => none
  | fuel + 1, c :: rest =>
    if c = '-' then do
      let (members, rest) ← leadingHyphens? spaced fuel (skip spaced rest)
      some (.literal { char := '-' } :: members, rest)
    else some ([], c :: rest)

/-- Whether brackets are negated, their first members, and what is left: hyphens, or a closing
bracket, stand for themselves there. -/
def openBrackets? (spaced : Bool) (cs : List Char) : Option (Bool × List Members × List Char) := do
  let cs ← skipTo? spaced cs
  let negated := cs.head? = some '^'
  let cs ← if negated then skipTo? spaced (cs.drop 1) else some cs
  let (hyphens, cs) ← leadingHyphens? spaced (cs.length + 1) cs
  match hyphens, cs with
  | [], ']' :: rest => some (negated, [.literal { char := ']' }], ← skipTo? spaced rest)
  | _, _ => some (negated, hyphens, cs)

/-- The member that a pattern is. -/
def member? : Pattern → Option Members
  | .literal l => some (.literal l)
  | .shorthand negated => some (.shorthand negated)
  | _ => none

/-- The pattern at the start of a range or alone in brackets. -/
def single? (spaced : Bool) : List Char → Option (Pattern × List Char)
  | [] => none
  | '\\' :: rest => escape? spaced rest
  | c :: rest => some (.literal { char := c }, rest)

/-- A member of brackets, perhaps a range, and what is left. -/
def memberOrRange? (spaced : Bool) (cs : List Char) : Option (Members × List Char) := do
  let (first, cs) ← single? spaced cs
  let cs ← skipTo? spaced cs
  match cs with
  | '-' :: rest =>
    if [some ']', some '-'].contains (peek? spaced rest) then some (← member? first, cs)
    else
      let (last, rest) ← single? spaced (← skipTo? spaced rest)
      match first, last with
      | .literal low, .literal high =>
        if low.char.toNat ≤ high.char.toNat then some (.range low high, rest) else none
      | _, _ => none
  | _ => some (← member? first, cs)

/-- What brackets hold: whether they are negated, their members, and what is left.  Given are the
members read so far, the last of which is first, and what is open around them. -/
def bracketsFrom? (spaced : Bool) :
    Nat → List Members → List OpenBrackets → List Char → Option (Bool × Members × List Char)
  | 0, _, _, _ => none
  | fuel + 1, members, stack, cs =>
    let combine := fun rest =>
      let (left, stack) := closeCombined (.ofList members.reverse) stack
      bracketsFrom? spaced fuel [] (.combining left :: stack) rest
    match skip spaced cs with
    | [] => none
    | '[' :: rest =>
      match named? rest with
      | some (negated, rest) => bracketsFrom? spaced fuel (.named negated :: members) stack rest
      | none => do
        let (negated, first, rest) ← openBrackets? spaced rest
        bracketsFrom? spaced fuel first (.begun members negated :: stack) rest
    | ']' :: rest =>
      match closeCombined (.ofList members.reverse) stack with
      | (m, [.begun _ negated]) => some (negated, m, rest)
      | (m, .begun before negated :: stack) =>
        bracketsFrom? spaced fuel (.bracketed negated m :: before) stack rest
      | _ => none
    | '&' :: '&' :: rest => combine rest
    | '-' :: '-' :: rest => combine rest
    | '~' :: '~' :: rest => combine rest
    | cs => do
      let (m, rest) ← memberOrRange? spaced cs
      bracketsFrom? spaced fuel (m :: members) stack rest

/-- What brackets hold, from what follows the opening one. -/
def brackets? (spaced : Bool) (cs : List Char) : Option (Bool × Members × List Char) := do
  let (negated, first, rest) ← openBrackets? spaced cs
  bracketsFrom? spaced (cs.length + 1) first [.begun [] negated] rest

/-! ### Groups -/

/-- The flag that a letter stands for. -/
def flag? (c : Char) : Option Flag :=
  [('i', .ignoreCase), ('m', .multiLine), ('s', .dotAll), ('U', .swapGreed), ('u', .unicode),
    ('R', .crlf), ('x', .spaced)].lookup c

/-- A list of flags, each named once, whether a group follows, and what is left.  Given are the items
read so far, the last of which is first. -/
def flagItems? : List FlagItem → List Char → Option (List FlagItem × Bool × List Char)
  | _, [] => none
  | items, c :: rest =>
    if c = ':' ∨ c = ')' then
      if items.head? = some .off then none else some (items.reverse, c = ':', rest)
    else do
      let item ← if c = '-' then some .off else (flag? c).map FlagItem.flag
      if items.contains item then none else flagItems? (item :: items) rest

/-- Whether a character can stand in the name of a group. -/
def isNameChar (first : Bool) (c : Char) : Bool :=
  if first then c = '_' || Text.isAlphabetic c
  else c = '_' || c = '.' || c = '[' || c = ']' || Text.isAlphanumeric c

/-- The name of a group, and what is left after its angle bracket. -/
def groupName? (cs : List Char) : Option (String × List Char) :=
  let name := cs.takeWhile (· ≠ '>')
  match name, cs.drop name.length with
  | c :: more, _ :: rest =>
    if isNameChar true c && more.all (isNameChar false) then some (String.ofList name, rest) else none
  | _, _ => none

/-- What an opening parenthesis begins. -/
inductive Opening where
  /-- A group, with its flags. -/
  | group (items : List FlagItem)
  /-- A group with a name. -/
  | named (name : String)
  /-- Flags for what follows. -/
  | flags (items : List FlagItem)

/-- What an opening parenthesis begins, and what is left.  What looks around is no group. -/
def opening? (cs : List Char) : Option (Opening × List Char) :=
  match cs with
  | '?' :: '=' :: _ => none
  | '?' :: '!' :: _ => none
  | '?' :: '<' :: '=' :: _ => none
  | '?' :: '<' :: '!' :: _ => none
  | '?' :: 'P' :: '<' :: rest => (groupName? rest).map fun (name, rest) => (.named name, rest)
  | '?' :: '<' :: rest => (groupName? rest).map fun (name, rest) => (.named name, rest)
  | '?' :: rest => do
    let (items, isGroup, rest) ← flagItems? [] rest
    if isGroup then some (.group items, rest)
    else if items.isEmpty then none
    else some (.flags items, rest)
  | cs => some (.group [], cs)

/-! ### Patterns -/

/-- A group that is still open, or the whole text. -/
structure OpenGroup where
  /-- Its flags. -/
  items : List FlagItem := []
  /-- Whether blanks were skipped before it. -/
  wasSpaced : Bool := false
  /-- Its complete branches, the last of which is first. -/
  branches : List Pattern := []
  /-- The patterns of the branch begun, the last of which is first. -/
  current : List Pattern := []

/-- Patterns as one. -/
def ofList : List Pattern → Pattern
  | [p] => p
  | list => .sequence list

/-- The pattern that an open group holds if it is closed. -/
def OpenGroup.close (g : OpenGroup) : Pattern :=
  let last := Pattern.ofList g.current.reverse
  if g.branches.isEmpty then last else .either (last :: g.branches).reverse

/-- One more pattern in the branch begun. -/
def OpenGroup.add (g : OpenGroup) (p : Pattern) : OpenGroup := { g with current := p :: g.current }

/-- The text between two characters of a pattern. -/
structure Reading where
  /-- Whether blanks and comments are skipped. -/
  spaced : Bool := false
  /-- The names of the groups so far. -/
  names : List String := []
  /-- The innermost open group, or the whole text. -/
  inner : OpenGroup := {}
  /-- The groups around it, from the inside. -/
  outer : List OpenGroup := []

namespace Reading

/-- One more pattern. -/
def add (r : Reading) (p : Pattern) : Reading := { r with inner := r.inner.add p }

/-- A group begins. -/
def openGroup (r : Reading) (items : List FlagItem) : Reading :=
  { r with
    spaced := (switched? .spaced items).getD r.spaced
    inner := { items, wasSpaced := r.spaced }
    outer := r.inner :: r.outer }

/-- What an opening parenthesis begins; no two groups have one name. -/
def begin? (r : Reading) : Opening → Option Reading
  | .group items => some (r.openGroup items)
  | .named name =>
    if r.names.contains name then none else some ({ r with names := name :: r.names }.openGroup [])
  | .flags items =>
    some ({ r with spaced := (switched? .spaced items).getD r.spaced }.add (.flags items))

/-- The innermost group ends. -/
def closeGroup? (r : Reading) : Option Reading :=
  match r.outer with
  | [] => none
  | g :: outer =>
    some
      { r with
        spaced := r.inner.wasSpaced
        inner := g.add (.group r.inner.items r.inner.close)
        outer }

/-- A branch ends and the next one begins. -/
def branch (r : Reading) : Reading :=
  { r with
    inner := { r.inner with branches := Pattern.ofList r.inner.current.reverse :: r.inner.branches, current := [] } }

/-- The last pattern may be repeated; there has to be one. -/
def repeat? (r : Reading) : Option Reading :=
  match r.inner.current with
  | [] => none
  | .flags _ :: _ => none
  | p :: rest => some { r with inner := { r.inner with current := .repeated p :: rest } }

/-- What is read when no character is left. -/
def finish? (r : Reading) : Option Pattern := if r.outer.isEmpty then some r.inner.close else none

end Reading

/-- The pattern that characters write after those that are read. -/
def readFrom? : Nat → Reading → List Char → Option Pattern
  | 0, _, _ => none
  | fuel + 1, r, cs =>
    match skip r.spaced cs with
    | [] => r.finish?
    | c :: rest =>
      if c = '(' then do
        let (opening, rest) ← opening? (skip r.spaced rest)
        readFrom? fuel (← r.begin? opening) rest
      else if c = ')' then r.closeGroup?.bind fun r => readFrom? fuel r rest
      else if c = '|' then readFrom? fuel r.branch rest
      else if c = '[' then do
        let (negated, members, rest) ← brackets? r.spaced rest
        readFrom? fuel (r.add (.bracketed negated members)) rest
      else if c = '?' ∨ c = '*' ∨ c = '+' then do
        let rest := if rest.head? = some '?' then rest.drop 1 else rest
        readFrom? fuel (← r.repeat?) rest
      else if c = '\x7b' then none
      else if c = '\\' then do
        let (p, rest) ← escape? r.spaced rest
        readFrom? fuel (r.add p) rest
      else if c = '.' then readFrom? fuel (r.add .dot) rest
      else if c = '^' ∨ c = '$' then readFrom? fuel (r.add (.place false)) rest
      else readFrom? fuel (r.add (.literal { char := c })) rest

/-- The pattern that a text writes. -/
def ofText? (s : String) : Option Pattern := readFrom? (s.length + 1) {} s.toList

end CwlCompliance.Pattern
