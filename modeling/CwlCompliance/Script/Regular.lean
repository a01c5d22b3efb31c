import CwlCompliance.Script.Glob

/-!
# Regular expressions

The regular expressions of the tools, in their basic and their extended writing, and where they match
in a line.  Of the matches that start first the longest one counts.

## Main definitions

* `Regular`, `Regular.ofText` — an expression, and how it is read.
* `Regular.Point` — a place in a line, with what the groups before it have matched.
* `Regular.firstMatch?` — the first match in a line.
-/

namespace CwlCompliance.Script

/-- A regular expression. -/
inductive Regular where
  /-- Nothing. -/
  | empty
  /-- One of some characters. -/
  | one (m : Members)
  /-- The start of the line. -/
  | lineStart
  /-- The end of the line. -/
  | lineEnd
  /-- The start of a word. -/
  | wordStart
  /-- The end of a word. -/
  | wordEnd
  /-- The start or the end of a word, or any other place. -/
  | wordEdge (isEdge : Bool)
  /-- What a group has matched. -/
  | same (group : Nat)
  /-- Two expressions, one after the other. -/
  | append (a b : Regular)
  /-- One of two expressions. -/
  | either (a b : Regular)
  /-- An expression again and again, so many times at least and at most. -/
  | repeated (a : Regular) (least : Nat) (most : Option Nat)
  /-- A group, which is numbered. -/
  | group (number : Nat) (a : Regular)
  deriving Repr

namespace Regular

/-! ### Reading -/

/-- What is left to read of an expression. -/
structure Input where
  /-- The characters that are left. -/
  rest : List Char
  /-- The number of groups so far. -/
  groups : Nat := 0

/-- The input without some characters at its start. -/
def Input.drop (i : Input) (n : Nat) : Input := { i with rest := i.rest.drop n }

/-- What is read, and what is left then; or what is wrong. -/
abbrev Reading := Except String (Regular × Input)

/-- Exactly one character. -/
def char (c : Char) : Regular := .one { ranges := [(c, c)] }

/-- Any character but the end of a line. -/
def any : Regular := .one { isNegated := true, ranges := [('\n', '\n')] }

/-- The characters of words. -/
def wordRanges : List (Char × Char) := [('0', '9'), ('A', 'Z'), ('_', '_'), ('a', 'z')]

/-- The blanks. -/
def blankRanges : List (Char × Char) := [('\t', '\r'), (' ', ' ')]

/-- What a letter after a backslash stands for. -/
def shorthand? (c : Char) : Option Regular :=
  match c with
  | 'w' => some (.one { ranges := wordRanges })
  | 'W' => some (.one { isNegated := true, ranges := wordRanges })
  | 's' => some (.one { ranges := blankRanges })
  | 'S' => some (.one { isNegated := true, ranges := blankRanges })
  | '<' => some .wordStart
  | '>' => some .wordEnd
  | 'b' => some (.wordEdge true)
  | 'B' => some (.wordEdge false)
  | _ => none

/-- The ranges in brackets up to the closing one, and what follows it. -/
def ranges? : Nat → Bool → List Char → Option (List (Char × Char) × List Char)
  | 0, _, _ => none
  | _ + 1, _, [] => none
  | n + 1, isFirst, c :: rest =>
    if c = ']' ∧ ¬ isFirst then some ([], rest)
    else
      let name := (rest.drop 1).takeWhile Char.isLower
      let named :=
        if c = '[' ∧ rest.head? = some ':' ∧ ((rest.drop 1).drop name.length).take 2 = [':', ']'] then
          namedRanges? (String.ofList name)
        else none
      match named with
      | some ranges => (ranges? n false (rest.drop (name.length + 3))).map fun (more, r) => (ranges ++ more, r)
      | none =>
        match rest with
        | '-' :: high :: after =>
          if high = ']' then (ranges? n false rest).map fun (more, r) => ((c, c) :: more, r)
          else (ranges? n false after).map fun (more, r) => ((c, high) :: more, r)
        | _ => (ranges? n false rest).map fun (more, r) => ((c, c) :: more, r)

/-- The brackets whose opening one is read already. -/
def members? (cs : List Char) : Option (Members × List Char) :=
  match cs with
  | '^' :: rest => (ranges? (rest.length + 1) true rest).map fun (ranges, r) =>
      ({ isNegated := true, ranges := ('\n', '\n') :: ranges }, r)
  | _ => (ranges? (cs.length + 1) true cs).map fun (ranges, r) => ({ ranges }, r)

/-- The bounds of a repetition, up to what closes them. -/
def bounds? (closing : List Char) (cs : List Char) : Option ((Nat × Option Nat) × List Char) :=
  let number := fun (ds : List Char) => (String.ofList ds).toNat?
  let low := cs.takeWhile Char.isDigit
  let afterLow := cs.drop low.length
  let (bounds, rest) :=
    match afterLow with
    | ',' :: more =>
      let high := more.takeWhile Char.isDigit
      (if low.isEmpty && high.isEmpty then none
        else some ((number low).getD 0, number high), more.drop high.length)
    | _ => ((number low).map fun n => (n, some n), afterLow)
  match bounds with
  | some b => if closing.isPrefixOf rest then some (b, rest.drop closing.length) else none
  | none => none

/-- The repetition that stands at the start of a text, and how many characters write it. -/
def repetition? (isExtended : Bool) (cs : List Char) : Option ((Nat × Option Nat) × List Char) :=
  match isExtended, cs with
  | _, '*' :: rest => some ((0, none), rest)
  | true, '+' :: rest => some ((1, none), rest)
  | true, '?' :: rest => some ((0, some 1), rest)
  | true, '\x7b' :: rest => bounds? ['\x7d'] rest
  | false, '\\' :: '+' :: rest => some ((1, none), rest)
  | false, '\\' :: '?' :: rest => some ((0, some 1), rest)
  | false, '\\' :: '\x7b' :: rest => bounds? ['\\', '\x7d'] rest
  | _, _ => none

/-- An expression with the repetitions after it; `n` bounds their number. -/
def repeatedBy (isExtended : Bool) : Nat → Regular → List Char → Regular × List Char
  | 0, a, cs => (a, cs)
  | n + 1, a, cs =>
    match repetition? isExtended cs with
    | some ((least, most), rest) => repeatedBy isExtended n (.repeated a least most) rest
    | none => (a, cs)

/-- Whether alternatives start to differ here. -/
def startsAlternative (isExtended : Bool) (cs : List Char) : Bool :=
  if isExtended then cs.head? = some '|' else cs.take 2 = ['\\', '|']

/-- Whether a group ends here. -/
def endsGroup (isExtended : Bool) (cs : List Char) : Bool :=
  if isExtended then cs.head? = some ')' else cs.take 2 = ['\\', ')']

/-- Whether a dollar sign before this stands for the end of the line. -/
def isLineEnd (isExtended : Bool) (rest : List Char) : Bool :=
  isExtended || rest.isEmpty || startsAlternative false rest || endsGroup false rest

mutual

/-- One expression, without what repeats it.  The first one of its alternative is told apart. -/
def single (isExtended isFirst : Bool) : Nat → Input → Reading
  | 0, _ => .error "Regular expression too big"
  | fuel + 1, i =>
    let found := fun (r : Regular) (rest : List Char) => .ok (r, { i with rest })
    match i.rest with
    | [] => .ok (.empty, i)
    | '[' :: rest =>
      match members? rest with
      | some (m, rest) => found (.one m) rest
      | none => .error "Unmatched [, [^, [:, [., or [="
    | '.' :: rest => found any rest
    | '^' :: rest => found (if isExtended || isFirst then .lineStart else char '^') rest
    | '$' :: rest => found (if isLineEnd isExtended rest then .lineEnd else char '$') rest
    | ['\\'] => .error "Trailing backslash"
    | '\\' :: c :: rest =>
      if c = '(' ∧ ¬ isExtended then groupOf isExtended fuel (i.drop 2)
      else if c.isDigit ∧ c ≠ '0' then
        if c.toNat - 48 ≤ i.groups then found (.same (c.toNat - 48)) rest
        else .error "Invalid back reference"
      else found ((shorthand? c).getD (char c)) rest
    | c :: rest =>
      if c = '(' ∧ isExtended then groupOf isExtended fuel (i.drop 1) else found (char c) rest

/-- A group after its opening parenthesis. -/
def groupOf (isExtended : Bool) : Nat → Input → Reading
  | 0, _ => .error "Regular expression too big"
  | fuel + 1, i => do
    let number := i.groups + 1
    let (a, j) ← alternatives isExtended fuel { i with groups := number }
    if endsGroup isExtended j.rest then
      return (.group number a, j.drop (if isExtended then 1 else 2))
    else throw "Unmatched ( or \\("

/-- Expressions one after another. -/
def sequence (isExtended isFirst : Bool) : Nat → Input → Reading
  | 0, _ => .error "Regular expression too big"
  | fuel + 1, i =>
    if i.rest.isEmpty || startsAlternative isExtended i.rest || endsGroup isExtended i.rest then
      .ok (.empty, i)
    else do
      let (a, j) ← single isExtended isFirst fuel i
      let isAnchor := !isExtended && isFirst && i.rest.head? = some '^'
      let (a, rest) :=
        if isAnchor then (a, j.rest) else repeatedBy isExtended j.rest.length a j.rest
      let (b, j) ← sequence isExtended isAnchor fuel { j with rest }
      return (.append a b, j)

/-- Alternatives. -/
def alternatives (isExtended : Bool) : Nat → Input → Reading
  | 0, _ => .error "Regular expression too big"
  | fuel + 1, i => do
    let (a, j) ← sequence isExtended true fuel i
    if startsAlternative isExtended j.rest then
      let (b, j) ← alternatives isExtended fuel (j.drop (if isExtended then 1 else 2))
      return (.either a b, j)
    else return (a, j)

end

/-- The expression that a text writes, or what is wrong with it. -/
def ofText (isExtended : Bool) (cs : List Char) : Except String Regular := do
  let (a, i) ← alternatives isExtended (4 * cs.length + 16) { rest := cs }
  if i.rest.isEmpty then return a else throw "Unmatched ) or \\)"

/-- The expression that matches just a text. -/
def ofFixed (cs : List Char) : Regular := cs.foldr (fun c r => .append (char c) r) .empty

/-! ### Matching -/

/-- A place in a line. -/
structure Point where
  /-- The character before it. -/
  before : Option Char := none
  /-- The characters after it. -/
  rest : List Char
  /-- What the groups before it have matched. -/
  groups : List (Nat × List Char) := []

/-- A character without its case. -/
def folded (ignoresCase : Bool) (c : Char) : Char := if ignoresCase then c.toLower else c

/-- Whether a character is meant, with or without regard to case. -/
def hasChar (ignoresCase : Bool) (m : Members) (c : Char) : Bool :=
  if ignoresCase then
    if m.isNegated then m.has c.toLower && m.has c.toUpper else m.has c.toLower || m.has c.toUpper
  else m.has c

/-- Whether a character belongs to words. -/
def isWordChar (c : Char) : Bool := c.isAlphanum || c = '_'

/-- Whether a word stands before a place. -/
def Point.afterWord (p : Point) : Bool := p.before.any isWordChar

/-- Whether a word stands after a place. -/
def Point.beforeWord (p : Point) : Bool := p.rest.head?.any isWordChar

/-- The place after some characters. -/
def Point.skip (p : Point) : Nat → Point
  | 0 => p
  | n + 1 =>
    match p.rest with
    | [] => p
    | c :: rest => Point.skip { p with before := some c, rest } n

/-- The places without those that agree in position with one before them. -/
def distinct (ps : List Point) : List Point :=
  ps.foldl
    (fun kept p => if kept.any fun q => q.rest.length = p.rest.length then kept else kept ++ [p]) []

/-- The places after repetitions, the longest first; `n` bounds their number. -/
def repeatFrom (step : Point → List Point) (least : Nat) : Nat → Nat → Point → List Point
  | 0, done, p => if least ≤ done then [p] else []
  | n + 1, done, p =>
    let further := (step p).filter fun q => q.rest.length < p.rest.length || done < least
    distinct (further.flatMap (repeatFrom step least n (done + 1)) ++ if least ≤ done then [p] else [])

/-- The places after a match from a place on, those to be preferred first. -/
def ends (ignoresCase : Bool) : Regular → Point → List Point
  | empty, p => [p]
  | one m, p =>
    match p.rest with
    | c :: rest => if hasChar ignoresCase m c then [{ p with before := some c, rest }] else []
    | [] => []
  | lineStart, p => if p.before.isNone then [p] else []
  | lineEnd, p => if p.rest.isEmpty then [p] else []
  | wordStart, p => if !p.afterWord && p.beforeWord then [p] else []
  | wordEnd, p => if p.afterWord && !p.beforeWord then [p] else []
  | wordEdge isEdge, p => if (p.afterWord != p.beforeWord) = isEdge then [p] else []
  | same n, p =>
    match p.groups.lookup n with
    | some cs =>
      if (cs.map (folded ignoresCase)).isPrefixOf (p.rest.map (folded ignoresCase)) then
        [p.skip cs.length]
      else []
    | none => []
  | append a b, p => distinct ((ends ignoresCase a p).flatMap (ends ignoresCase b))
  | either a b, p => distinct (ends ignoresCase a p ++ ends ignoresCase b p)
  | repeated a least most, p =>
    repeatFrom (ends ignoresCase a) least (most.getD (p.rest.length + least)) 0 p
  | group n a, p =>
    (ends ignoresCase a p).map fun q =>
      { q with groups := (n, p.rest.take (p.rest.length - q.rest.length)) :: q.groups }

/-- The longest match from a place on: the place after it. -/
def longest? (r : Regular) (ignoresCase : Bool) (p : Point) : Option Point :=
  (r.ends ignoresCase p).foldl
    (fun best q =>
      match best with
      | some b => if q.rest.length < b.rest.length then some q else some b
      | none => some q)
    none

/-- The first match from a place on: the characters before it, and the places where it starts and
ends. -/
def firstMatch? (r : Regular) (ignoresCase : Bool) : Nat → Point → Option (List Char × Point × Point)
  | 0, _ => none
  | n + 1, p =>
    match r.longest? ignoresCase p with
    | some q => some ([], p, q)
    | none =>
      match p.rest with
      | [] => none
      | c :: _ => (firstMatch? r ignoresCase n (p.skip 1)).map fun (cs, start, stop) => (c :: cs, start, stop)

/-- The first match in the rest of a line. -/
def find? (r : Regular) (ignoresCase : Bool) (p : Point) : Option (List Char × Point × Point) :=
  r.firstMatch? ignoresCase (p.rest.length + 1) p

/-- The characters between two places. -/
def between (p q : Point) : List Char := p.rest.take (p.rest.length - q.rest.length)

end Regular

end CwlCompliance.Script
