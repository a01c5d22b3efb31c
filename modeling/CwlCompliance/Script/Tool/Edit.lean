import CwlCompliance.Script.Regular
import CwlCompliance.Script.Tool.Basic

/-!
# Editing

The tool that edits lines one after another: for each line it runs the commands of a script whose
addresses select the line.

## Main definitions

* `Edit`, `Edit.Action`, `Edit.Address` — the commands, and the lines that they are meant for.
* `Edit.ofText` — how a script is read.
* `Edit.run` — what a script makes of lines.
* `Tool.sed` — the tool.
-/

namespace CwlCompliance.Script

namespace Edit

/-- The lines that a command is meant for. -/
inductive Address where
  /-- The line with a number. -/
  | line (n : Nat)
  /-- The last line. -/
  | last
  /-- The lines that a pattern matches. -/
  | pattern (r : Regular) (ignoresCase : Bool)
  /-- So many lines from the start of the range on. -/
  | after (n : Nat)
  deriving Repr

/-- A part of what replaces a match. -/
inductive Piece where
  /-- A character. -/
  | char (c : Char)
  /-- What a group has matched, or for zero all that was matched. -/
  | group (n : Nat)
  deriving DecidableEq, Repr

/-- How matches are replaced. -/
structure Substitution where
  /-- The pattern. -/
  pattern : Regular
  /-- What replaces a match. -/
  replacement : List Piece
  /-- Whether all matches are replaced from the first one on that is. -/
  isGlobal : Bool := false
  /-- The number of the first match that is replaced. -/
  first : Nat := 1
  /-- Whether the line is printed if anything was replaced. -/
  prints : Bool := false
  /-- Whether case counts for nothing. -/
  ignoresCase : Bool := false
  deriving Repr

/-- What a command does. -/
inductive Action where
  /-- Replaces matches. -/
  | substitute (s : Substitution)
  /-- Exchanges characters. -/
  | exchange (pairs : List (Char × Char))
  /-- Does what a letter says. -/
  | letter (c : Char)
  /-- Does what a letter says with a text. -/
  | text (c : Char) (cs : List Char)
  /-- Ends the run with an exit code, after printing the line or not. -/
  | quit (prints : Bool) (code : Nat)
  deriving Repr

end Edit

/-- A command: the lines that it is meant for, and what it does with them. -/
structure Edit where
  /-- The lines that it is meant for, or those that start a range of them. -/
  start? : Option Edit.Address := none
  /-- The lines that end a range. -/
  stop? : Option Edit.Address := none
  /-- Whether all other lines are meant. -/
  isNegated : Bool := false
  /-- What it does. -/
  actions : List Edit.Action := []
  deriving Repr

namespace Edit

/-! ### Reading -/

/-- The characters before a delimiter, and what follows it.  A backslash before the delimiter is left
out; any other is kept with its character. -/
def delimited? (delimiter : Char) : List Char → Option (List Char × List Char)
  | [] => none
  | '\\' :: c :: rest =>
    (delimited? delimiter rest).map fun (cs, r) =>
      (if c = delimiter ∧ c ≠ '\\' then (c :: cs, r) else ('\\' :: c :: cs, r))
  | c :: rest =>
    if c = delimiter then some ([], rest)
    else (delimited? delimiter rest).map fun (cs, r) => (c :: cs, r)

/-- A pattern in which letters after a backslash stand for ends of lines and tabs. -/
def patternText : List Char → List Char
  | '\\' :: 'n' :: rest => '\n' :: patternText rest
  | '\\' :: 't' :: rest => '\t' :: patternText rest
  | '\\' :: c :: rest => '\\' :: c :: patternText rest
  | c :: rest => c :: patternText rest
  | [] => []

/-- What replaces a match. -/
def replacementOf : List Char → List Piece
  | '\\' :: c :: rest =>
    (if c.isDigit then .group (c.toNat - 48) else if c = 'n' then .char '\n' else if c = 't' then .char '\t'
      else .char c) :: replacementOf rest
  | '&' :: rest => .group 0 :: replacementOf rest
  | c :: rest => .char c :: replacementOf rest
  | [] => []

/-- A pattern as an address, if one starts here. -/
def patternAddress? (isExtended : Bool) (delimiter : Char) (cs : List Char) :
    Except String (Address × List Char) :=
  match delimited? delimiter cs with
  | none => .error "unterminated address regex"
  | some (p, rest) => do
    let r ← Regular.ofText isExtended (patternText p)
    match rest with
    | 'I' :: rest => return (.pattern r true, rest)
    | _ => return (.pattern r false, rest)

/-- The address at the start of a text, if there is one. -/
def address? (isExtended : Bool) (cs : List Char) : Except String (Option Address × List Char) := do
  match cs with
  | '$' :: rest => return (some .last, rest)
  | '/' :: rest =>
    let (a, rest) ← patternAddress? isExtended '/' rest
    return (some a, rest)
  | '\\' :: d :: rest =>
    let (a, rest) ← patternAddress? isExtended d rest
    return (some a, rest)
  | '+' :: rest =>
    let ds := rest.takeWhile Char.isDigit
    match (String.ofList ds).toNat? with
    | some n => return (some (.after n), rest.drop ds.length)
    | none => throw "expected a number"
  | cs =>
    let ds := cs.takeWhile Char.isDigit
    match (String.ofList ds).toNat? with
    | some n => return (some (.line n), cs.drop ds.length)
    | none => return (none, cs)

/-- The substitution with one more flag. -/
def Substitution.flag (s : Substitution) (c : Char) : Option Substitution :=
  match c with
  | 'g' => some { s with isGlobal := true }
  | 'p' => some { s with prints := true }
  | 'i' | 'I' => some { s with ignoresCase := true }
  | _ => none

/-- The flags after a substitution. -/
def flags : Nat → Substitution → List Char → Except String (Substitution × List Char)
  | 0, s, cs => .ok (s, cs)
  | _, s, [] => .ok (s, [])
  | n + 1, s, c :: rest =>
    match s.flag c with
    | some s => flags n s rest
    | none =>
      if c.isDigit then
        let ds := (c :: rest).takeWhile Char.isDigit
        flags n { s with first := max 1 ((String.ofList ds).toNat?.getD 1) } ((c :: rest).drop ds.length)
      else if c = ' ' then flags n s rest
      else if c = ';' ∨ c = '\n' ∨ c = '\x7d' ∨ c = '#' then .ok (s, c :: rest)
      else .error ("unknown option to `s'")

/-- The characters that are exchanged, where a backslash quotes another. -/
def plainChars : List Char → List Char
  | '\\' :: 'n' :: rest => '\n' :: plainChars rest
  | '\\' :: c :: rest => c :: plainChars rest
  | c :: rest => c :: plainChars rest
  | [] => []

/-- The text after a command that takes one: up to the end of the line, one blank line end before it
left out. -/
def textOf (cs : List Char) : List Char × List Char :=
  let cs := cs.dropWhile fun c => c = ' ' || c = '\t'
  let cs := match cs with | '\\' :: '\n' :: rest => rest | '\\' :: rest => rest | cs => cs
  let line := cs.takeWhile (· ≠ '\n')
  (line, cs.drop line.length)

/-- What a command does, from its letter on. -/
def actionOf (isExtended : Bool) (c : Char) (rest : List Char) : Except String (Action × List Char) := do
  match c, rest with
  | 's', d :: rest =>
    match delimited? d rest with
    | none => throw "unterminated `s' command"
    | some (p, rest) =>
      match delimited? d rest with
      | none => throw "unterminated `s' command"
      | some (t, rest) =>
        let pattern ← Regular.ofText isExtended (patternText p)
        let (s, rest) ← flags rest.length { pattern, replacement := replacementOf t } rest
        return (.substitute s, rest)
  | 'y', d :: rest =>
    match delimited? d rest with
    | none => throw "unterminated `y' command"
    | some (a, rest) =>
      match delimited? d rest with
      | none => throw "unterminated `y' command"
      | some (b, rest) =>
        let (a, b) := (plainChars a, plainChars b)
        if a.length ≠ b.length then throw "strings for `y' command are different lengths"
        return (.exchange (a.zip b), rest)
  | 'q', rest | 'Q', rest =>
    let digits := (rest.dropWhile (· = ' ')).takeWhile Char.isDigit
    let after := if digits.isEmpty then rest else (rest.dropWhile (· = ' ')).drop digits.length
    return (.quit (c = 'q') ((String.ofList digits).toNat?.getD 0), after)
  | c, rest =>
    if ['a', 'i', 'c'].contains c then
      let (cs, rest) := textOf rest
      return (.text c cs, rest)
    else if ['p', 'd', 'n', 'N', 'D', 'P', 'h', 'H', 'g', 'G', 'x', '='].contains c then
      return (.letter c, rest)
    else throw ("unknown command: `" ++ String.singleton c ++ "'")

/-- A command, and what follows it.  Commands in braces have the address before the braces. -/
def commandsFrom (isExtended : Bool) : Nat → List Char → Except String (List Edit)
  | 0, _ => .ok []
  | n + 1, cs => do
    let cs := cs.dropWhile fun c => c = ';' || c = ' ' || c = '\n' || c = '\t'
    match cs with
    | [] => return []
    | '#' :: rest => commandsFrom isExtended n (rest.dropWhile (· ≠ '\n'))
    | cs =>
      let (start?, rest) ← address? isExtended cs
      let (stop?, rest) ← match rest with
        | ',' :: more => address? isExtended (more.dropWhile (· = ' '))
        | _ => pure (none, rest)
      let rest := rest.dropWhile (· = ' ')
      let isNegated := rest.head? = some '!'
      let rest := if isNegated then (rest.drop 1).dropWhile (· = ' ') else rest
      match rest with
      | [] => throw "missing command"
      | '\x7b' :: rest =>
        let (actions, rest) ← groupFrom isExtended n rest
        return { start?, stop?, isNegated, actions } :: (← commandsFrom isExtended n rest)
      | c :: rest =>
        let (action, rest) ← actionOf isExtended c rest
        return { start?, stop?, isNegated, actions := [action] } :: (← commandsFrom isExtended n rest)
where
  /-- The commands up to a closing brace, which have no addresses of their own. -/
  groupFrom (isExtended : Bool) : Nat → List Char → Except String (List Action × List Char)
    | 0, _ => .error "unmatched `\x7b'"
    | n + 1, cs => do
      match cs.dropWhile fun c => c = ';' || c = ' ' || c = '\n' || c = '\t' with
      | [] => throw "unmatched `\x7b'"
      | '\x7d' :: rest => return ([], rest)
      | c :: rest =>
        let (action, rest) ← actionOf isExtended c rest
        let (more, rest) ← groupFrom isExtended n rest
        return (action :: more, rest)

/-- The commands that a text writes. -/
def ofText (isExtended : Bool) (cs : List Char) : Except String (List Edit) :=
  commandsFrom isExtended (cs.length + 1) cs

/-! ### Running -/

/-- What the run of a script has come to. -/
structure State where
  /-- The line that is edited. -/
  line : List Char
  /-- The number of the line. -/
  number : Nat
  /-- The lines after it. -/
  rest : List (List Char)
  /-- The text that is kept aside. -/
  kept : List Char := []
  /-- The numbers of the commands in whose ranges the line is, with their last lines if known. -/
  active : List (Nat × Option Nat) := []
  /-- What is printed. -/
  out : List Char := []
  /-- What is printed after the line. -/
  appended : List Char := []
  /-- Whether nothing more is done with the line, and whether it is then printed. -/
  done : Option Bool := none
  /-- The exit code, if the run has come to its end. -/
  ended? : Option Nat := none

/-- Whether a line is the one that an address means. -/
def Address.isAt (a : Address) (s : State) : Bool :=
  match a with
  | .line n => s.number = n
  | .last => s.rest.isEmpty
  | .pattern r ignoresCase => (r.find? ignoresCase { rest := s.line }).isSome
  | .after _ => false

/-- Whether a command is meant for the line, and the ranges after that. -/
def selects (e : Edit) (number : Nat) (s : State) : Bool × State :=
  match e.start?, e.stop? with
  | none, _ => (true, s)
  | some a, none => (a.isAt s, s)
  | some a, some b =>
    let others := s.active.filter (·.1 ≠ number)
    match s.active.lookup number with
    | some last? =>
      let ends := match last?, b with
        | some n, _ => decide (n ≤ s.number)
        | none, b => b.isAt s
      let isIn := match last? with | some n => decide (s.number ≤ n) | none => true
      if isIn then (true, if ends then { s with active := others } else s)
      else (a.isAt s, { s with active := others })
    | none =>
      if !a.isAt s then (false, s)
      else
        match b with
        | .line n => (true, if n ≤ s.number then s else { s with active := (number, some n) :: others })
        | .after n =>
          (true, if n = 0 then s else { s with active := (number, some (s.number + n)) :: others })
        | _ => (true, { s with active := (number, none) :: others })

/-- What replaces a match. -/
def replaced (pieces : List Piece) (p q : Regular.Point) : List Char :=
  pieces.flatMap fun piece =>
    match piece with
    | .char c => [c]
    | .group 0 => Regular.between p q
    | .group n => (q.groups.lookup n).getD []

/-- A line with its matches replaced from a place on, and whether any was; `n` bounds their number,
and `count` is the number of the next match. -/
def substituted (s : Substitution) : Nat → Nat → Regular.Point → List Char × Bool
  | 0, _, p => (p.rest, false)
  | n + 1, count, p =>
    match s.pattern.find? s.ignoresCase { p with groups := [] } with
    | none => (p.rest, false)
    | some (before, start, stop) =>
      let chosen := s.first ≤ count
      let shown := if chosen then replaced s.replacement start stop else Regular.between start stop
      if chosen && !s.isGlobal then (before ++ shown ++ stop.rest, true)
      else
        let isEmpty := stop.rest.length = start.rest.length
        let step := if isEmpty then stop.rest.take 1 else []
        let next := if isEmpty then stop.skip 1 else stop
        if stop.rest.isEmpty then (before ++ shown, chosen)
        else
          let (more, found) := substituted s n (count + 1) next
          (before ++ shown ++ step ++ more, found || chosen)

/-- What an action does with a line. -/
def act (s : State) (a : Action) : State :=
  if s.done.isSome || s.ended?.isSome then s
  else
    match a with
    | .substitute sub =>
      let (line, found) := substituted sub (s.line.length + 2) 1 { rest := s.line }
      { s with line, out := if found && sub.prints then s.out ++ line ++ ['\n'] else s.out }
    | .exchange pairs => { s with line := s.line.map fun c => (pairs.lookup c).getD c }
    | .quit prints code => { s with done := some prints, ended? := some code }
    | .text 'a' cs => { s with appended := s.appended ++ cs ++ ['\n'] }
    | .text 'i' cs => { s with out := s.out ++ cs ++ ['\n'] }
    | .text _ cs => { s with out := s.out ++ cs ++ ['\n'], done := some false }
    | .letter c =>
      match c, s.rest with
      | 'p', _ => { s with out := s.out ++ s.line ++ ['\n'] }
      | 'P', _ => { s with out := s.out ++ s.line.takeWhile (· ≠ '\n') ++ ['\n'] }
      | '=', _ => { s with out := s.out ++ Nat.toDigits 10 s.number ++ ['\n'] }
      | 'h', _ => { s with kept := s.line }
      | 'H', _ => { s with kept := s.kept ++ '\n' :: s.line }
      | 'g', _ => { s with line := s.kept }
      | 'G', _ => { s with line := s.line ++ '\n' :: s.kept }
      | 'x', _ => { s with line := s.kept, kept := s.line }
      | 'N', l :: rest => { s with line := s.line ++ '\n' :: l, rest, number := s.number + 1 }
      | 'N', [] => { s with done := some true, ended? := some 0 }
      | _, _ => { s with done := some false }

/-- The next line takes the place of the one that is edited, which is printed unless lines are printed
only where a command says so. -/
def nextLine (quiet : Bool) (s : State) : State :=
  match s.rest with
  | [] => { s with done := some true, ended? := some 0 }
  | l :: rest =>
    { s with
      out := s.out ++ (if quiet then [] else s.line ++ ['\n']) ++ s.appended
      appended := [], line := l, rest, number := s.number + 1 }

/-- What the commands do with a line. -/
def edit (quiet : Bool) (script : List Edit) (s : State) : State :=
  script.zipIdx.foldl
    (fun s (e, n) =>
      if s.done.isSome || s.ended?.isSome then s
      else
        let (isMeant, s) := e.selects n s
        if isMeant = e.isNegated then s
        else e.actions.foldl
          (fun s a =>
            if s.done.isSome || s.ended?.isSome then s
            else match a with
              | .letter 'n' => nextLine quiet s
              | a => act s a) s)
    s

/-- What a script prints for lines, and the exit code; `n` bounds their number. -/
def run (quiet : Bool) (script : List Edit) : Nat → State → List Char × Nat
  | 0, s => (s.out, 0)
  | n + 1, s =>
    let s := edit quiet script s
    let shown := if s.done.getD true && !quiet then s.line ++ ['\n'] else []
    let out := s.out ++ shown ++ s.appended
    match s.ended?, s.rest with
    | some code, _ => (out, code)
    | none, [] => (out, 0)
    | none, l :: rest =>
      run quiet script n
        { s with line := l, rest, number := s.number + 1, out, appended := [], done := none }

end Edit

namespace Tool

/-- Edits the lines of files. -/
def sed : Tool := fun c =>
  let table : OptionTable :=
    { plain := ['n', 'E', 'r', 's', 'u', 'z'], valued := ['e']
      long := [("quiet", 'n'), ("silent", 'n'), ("regexp-extended", 'E'), ("expression", 'e')] }
  let o := table.read c.arguments
  match o.unknown? with
  | some u => unknownOption "sed" u 1
  | none =>
    let (scripts, names) :=
      if o.has 'e' then (o.values 'e', o.operands) else (o.operands.take 1, o.operands.drop 1)
    let written := (['\n'].intercalate (scripts.map String.toList))
    match Edit.ofText (o.has 'E' || o.has 'r') written with
    | .error message => .failure ("sed: -e expression #1, char " ++ toString written.length ++ ": " ++ message) 1
    | .ok script =>
      let found := c.contents names (fun n e =>
        match e with
        | .isDirectory => "sed: couldn't edit " ++ n ++ ": not a regular file"
        | _ => "sed: can't read " ++ n ++ ": " ++ e.reason) 2
      match linesOf found.stdout with
      | [] => { found with stdout := [] }
      | line :: rest =>
        let (out, code) := Edit.run (o.has 'n') script (rest.length + 1) { line, number := 1, rest }
        let out := if found.stdout.getLast? ≠ some '\n' && out.getLast? = some '\n' then out.dropLast else out
        { found with stdout := out, code := if code = 0 then found.code else code }

end Tool

end CwlCompliance.Script
