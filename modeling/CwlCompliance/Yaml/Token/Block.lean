import CwlCompliance.Yaml.Error
import CwlCompliance.Yaml.Character
import CwlCompliance.Yaml.Token

/-!
# Block scalars

A scalar introduced by a bar, which keeps its lines, or by a greater-than sign, which folds them.
Its heading may fix the indentation and say what becomes of the line breaks at its end.

## Main definitions

* `Block.Heading` — what follows the introducing character on its line.
* `Block.read` — the scalar that starts at the introducing character.
-/

namespace CwlCompliance.Yaml.Block

open Character

/-- What becomes of the line breaks at the end of a block scalar. -/
inductive Chomping where
  /-- None is kept. -/
  | strip
  /-- One is kept. -/
  | clip
  /-- All are kept. -/
  | keep
  deriving DecidableEq, Repr

/-- The heading of a block scalar. -/
structure Heading where
  /-- What becomes of the final line breaks. -/
  chomping : Chomping
  /-- The indentation relative to the parent, if the heading gives it. -/
  increment : Option Nat

/-- The chomping indicator at the cursor, if any. -/
def readChomping (c : Cursor) : Option Chomping × Cursor :=
  match c.head with
  | some '+' => (some .keep, c.advance 1)
  | some '-' => (some .strip, c.advance 1)
  | _ => (none, c)

/-- The indentation indicator at the cursor, if any; zero is none. -/
def readIncrement (c : Cursor) : Except Error (Option Nat × Cursor) :=
  match c.head with
  | some x =>
    if x = '0' then .error .badBlockScalar
    else if x.isDigit then .ok (some (x.toNat - 48), c.advance 1)
    else .ok (none, c)
  | none => .ok (none, c)

/-- The heading, whose two indicators may come in either order, and the place after its line. -/
def readHeading (c : Cursor) : Except Error (Heading × Cursor) := do
  let (before, c) := readChomping c
  let (increment, c) ← readIncrement c
  let (after, c) :=
    if before.isNone && increment.isSome then readChomping c else (none, c)
  let c := c.advanceComment
  if !c.atLineEnd then throw .badBlockScalar
  return (⟨(before.or after).getD .clip, increment⟩, c.takeBreak.2)

/-- Past indentation and empty lines: the breaks passed, the deepest column reached, and the place
of the first line with content.  Without a known indentation every leading space is passed. -/
def readBreaks (indent : Option Nat) :
    Nat → Cursor → Nat → String → Except Error (String × Nat × Cursor)
  | 0, c, deepest, breaks => .ok (breaks, deepest, c)
  | n + 1, c, deepest, breaks =>
    let spaces := (c.rest.takeWhile (· = ' ')).length
    let c :=
      match indent with
      | none => c.advance spaces
      | some k => c.advance (min spaces (k - c.column))
    let deepest := max deepest c.column
    let inside := indent.all (c.column < ·)
    if inside && c.sees 0 '\t' then .error .badBlockScalar
    else if c.seesClass 0 isBreak then
      let (text, c) := c.takeBreak
      readBreaks indent n c deepest (breaks ++ text)
    else .ok (breaks, deepest, c)

/-- What has been read of a block scalar: its text, the break that ended the last line, the empty
lines after that, and whether the last line started with a blank. -/
structure Progress where
  /-- The text so far. -/
  text : String
  /-- The break after the last line. -/
  first : String
  /-- The empty lines since. -/
  more : String
  /-- Whether the last line started with a blank. -/
  indented : Bool

/-- The breaks before the next line, folded where the style and both lines allow it. -/
def Progress.joined (p : Progress) (literal nextIndented : Bool) : String :=
  if !literal && p.first.startsWith "\n" && !p.indented && !nextIndented then
    p.text ++ (if p.more.isEmpty then " " else "") ++ p.more
  else p.text ++ p.first ++ p.more

/-- The lines of a block scalar at an indentation. -/
def readLines (literal : Bool) (indent : Nat) :
    Nat → Cursor → Progress → Except Error (Progress × Cursor)
  | 0, c, p => .ok (p, c)
  | n + 1, c, p =>
    if c.column = indent && !c.rest.isEmpty then do
      let indented := c.seesClass 0 isBlank
      let line := c.rest.takeWhile (fun x => !isBreak x)
      let (first, c) := (c.advance line.length).takeBreak
      let (more, _, c) ← readBreaks (some indent) (c.size + 1) c 0 ""
      readLines literal indent n c
        ⟨p.joined literal indented ++ String.ofList line, first, more, indented⟩
    else .ok (p, c)

/-- The text of a block scalar once its last lines are chomped. -/
def Progress.chomped (p : Progress) : Chomping → String
  | .strip => p.text
  | .clip => p.text ++ p.first
  | .keep => p.text ++ p.first ++ p.more

/-- The block scalar at the cursor under a parent at an indentation, and the place after it. -/
def read (literal : Bool) (parent : Int) (c : Cursor) : Except Error (String × Cursor) := do
  let (heading, c) ← readHeading (c.advance 1)
  let given := heading.increment.map fun k => (max parent 0).toNat + k
  let (breaks, deepest, c) ← readBreaks given (c.size + 1) c 0 ""
  let indent := given.getD (max (max deepest (parent + 1).toNat) 1)
  let (p, c) ← readLines literal indent (c.size + 1) c ⟨"", "", breaks, false⟩
  return (p.chomped heading.chomping, c)

end CwlCompliance.Yaml.Block
