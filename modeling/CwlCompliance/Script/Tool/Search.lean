import CwlCompliance.Script.Regular
import CwlCompliance.Script.Tool.Lines

/-!
# Searching

The tool that prints the lines of files that patterns match.

## Main definitions

* `Search`, `Search.ofOptions` — what is searched for and how.
* `Tool.grep` — the tool.
-/

namespace CwlCompliance.Script

/-- What is searched for. -/
structure Search where
  /-- The patterns. -/
  patterns : List Regular
  /-- Whether case counts for nothing. -/
  ignoresCase : Bool
  /-- Whether lines are meant that nothing matches in. -/
  isInverted : Bool
  /-- Whether only words are meant. -/
  inWords : Bool
  /-- Whether only whole lines are meant. -/
  inLines : Bool

namespace Search

/-- Whether a pattern was matched at a place in the way that is meant. -/
def fits (s : Search) (p q : Regular.Point) : Bool :=
  (!s.inWords || (!(p.before.any Regular.isWordChar) && !q.beforeWord)) &&
    (!s.inLines || (p.before.isNone && q.rest.isEmpty))

/-- The longest match from a place on. -/
def matchAt? (s : Search) (p : Regular.Point) : Option Regular.Point :=
  (s.patterns.flatMap fun r => (r.ends s.ignoresCase p).filter (s.fits p)).foldl
    (fun best q => match best with
      | some b => if q.rest.length < b.rest.length then some q else some b
      | none => some q)
    none

/-- All matches from a place on; `n` bounds their number. -/
def matchesFrom (s : Search) : Nat → Regular.Point → List (List Char)
  | 0, _ => []
  | n + 1, p =>
    match s.matchAt? p with
    | some q =>
      if q.rest.length = p.rest.length then
        (if p.rest.isEmpty then [[]] else [] :: matchesFrom s n (p.skip 1))
      else
        let found := Regular.between p q
        if q.rest.isEmpty then [found] else found :: matchesFrom s n { q with groups := [] }
    | none => if p.rest.isEmpty then [] else matchesFrom s n (p.skip 1)

/-- All matches in a line. -/
def matchesIn (s : Search) (line : List Char) : List (List Char) :=
  s.matchesFrom (line.length + 1) { rest := line }

/-- Whether a line is meant. -/
def selects (s : Search) (line : List Char) : Bool := (s.matchesIn line).isEmpty = s.isInverted

/-- The options of the tool. -/
def table : OptionTable :=
  { plain := "cqvinoEFGwxlLhHsa".toList, valued := ['e', 'm', 'A', 'B', 'C']
    long := [("count", 'c'), ("quiet", 'q'), ("silent", 'q'), ("invert-match", 'v'), ("ignore-case", 'i'),
      ("line-number", 'n'), ("only-matching", 'o'), ("extended-regexp", 'E'), ("fixed-strings", 'F'),
      ("word-regexp", 'w'), ("line-regexp", 'x'), ("files-with-matches", 'l'), ("no-filename", 'h'),
      ("with-filename", 'H'), ("no-messages", 's'), ("regexp", 'e'), ("max-count", 'm'), ("text", 'a')] }

/-- What some options search for, given the patterns as they are written. -/
def ofOptions (o : Options) (isExtended : Bool) (written : List String) : Except String Search := do
  let texts := written.flatMap fun w => w.toList.splitOn '\n'
  let patterns ← texts.mapM fun cs =>
    if o.has 'F' then .ok (Regular.ofFixed cs) else Regular.ofText (isExtended || o.has 'E') cs
  return { patterns, ignoresCase := o.has 'i', isInverted := o.has 'v', inWords := o.has 'w', inLines := o.has 'x' }

/-- The numbers of lines within a distance of the chosen ones. -/
def around (before after : Nat) (chosen : List Nat) (n : Nat) : Bool :=
  chosen.any fun k => decide (k ≤ n + before) && decide (n ≤ k + after)

/-- What is printed of a file. -/
def output (s : Search) (o : Options) (name? : Option String) (cs : List Char) : List Char × Bool :=
  let lines := (linesOf cs).zipIdx 1
  let all := lines.filter fun (l, _) => s.selects l
  let chosen := match (o.value? 'm').bind String.toNat? with
    | some m => all.take m
    | none => all
  let title := fun (mark : Char) => match name? with | some n => n.toList ++ [mark] | none => []
  let label := fun (mark : Char) (n : Nat) =>
    title mark ++ (if o.has 'n' then Nat.toDigits 10 n ++ [mark] else [])
  let size := fun (c : Char) => ((o.value? c).orElse fun _ => o.value? 'C').bind String.toNat?
  let out :=
    if o.has 'c' then title ':' ++ Nat.toDigits 10 chosen.length ++ ['\n']
    else if o.has 'o' then
      if o.has 'v' then []
      else chosen.flatMap fun (l, n) =>
        ((s.matchesIn l).filter fun m => !m.isEmpty).flatMap fun m => label ':' n ++ m ++ ['\n']
    else if (size 'A').isNone && (size 'B').isNone then
      chosen.flatMap fun (l, n) => label ':' n ++ l ++ ['\n']
    else
      let numbers := chosen.map (·.2)
      let near := lines.filter fun (_, n) =>
        around ((size 'B').getD 0) ((size 'A').getD 0) numbers n
      (near.foldl
        (fun (acc : List Char × Option Nat) (line : List Char × Nat) =>
          let gap := if acc.2.any fun k => k + 1 < line.2 then "--\n".toList else []
          let mark := if numbers.contains line.2 then ':' else '-'
          (acc.1 ++ gap ++ label mark line.2 ++ line.1 ++ ['\n'], some line.2))
        ([], none)).1
  (out, !chosen.isEmpty)

end Search

namespace Tool

/-- Prints the lines that a pattern matches, the pattern written in the extended form or not. -/
def grepAs (tool : String) (isExtended : Bool) : Tool := fun c =>
  let o := Search.table.read (withNumbers 'C' c.arguments)
  let usage := "Usage: grep [OPTION]... PATTERNS [FILE]...\nTry 'grep --help' for more information."
  match o.unknown? with
  | some u => .failure (tool ++ ": invalid option -- '" ++ u ++ "'\n" ++ usage) 2
  | none =>
    let (written, names) :=
      if o.has 'e' then (o.values 'e', o.operands) else (o.operands.take 1, o.operands.drop 1)
    if written.isEmpty then .failure usage 2
    else
      match Search.ofOptions o isExtended written with
      | .error message => .failure (tool ++ ": " ++ message) 2
      | .ok s =>
        let titled := (decide (1 < names.length) || o.has 'H') && !o.has 'h'
        let step := fun (acc : Streams × Bool) (source : Option String × Except FileError (List Char)) =>
          let name := source.1.getD "(standard input)"
          match source.2 with
          | .error e =>
            (acc.1.andThen { stderr := if o.has 's' then [] else (complaint tool name e ++ "\n").toList, code := 2 },
              acc.2)
          | .ok cs =>
            let (out, found) := s.output o (if titled then some name else none) cs
            let shown :=
              if o.has 'q' then []
              else if o.has 'l' then (if found then (name ++ "\n").toList else [])
              else if o.has 'L' then (if found then [] else (name ++ "\n").toList)
              else out
            (acc.1.andThen { stdout := shown }, acc.2 || found)
        let (r, found) := (c.sources names).foldl step ({ left? := Call.left? names }, false)
        { r with code := if found && (r.code = 0 || o.has 'q') then 0 else if r.code = 0 then 1 else r.code }

/-- Prints the lines that a pattern in the basic form matches. -/
def grep : Tool := grepAs "grep" false

end Tool

end CwlCompliance.Script
