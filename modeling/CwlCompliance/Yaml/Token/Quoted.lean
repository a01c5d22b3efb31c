import CwlCompliance.Yaml.Error
import CwlCompliance.Yaml.Character
import CwlCompliance.Yaml.Token

/-!
# Quoted scalars

A scalar in single or double quotes.  Line breaks inside are folded with the blanks around them;
double quotes also know escapes, one of which is an escaped line break.

## Main definitions

* `Quoted.read` — the scalar that starts at an opening quote.
-/

namespace CwlCompliance.Yaml.Quoted

open Character

/-- The character that an escape of one letter stands for. -/
def simpleEscape? : Char → Option Char
  | '0' => some '\x00'
  | 'a' => some '\x07'
  | 'b' => some '\x08'
  | 't' => some '\t'
  | '\t' => some '\t'
  | 'n' => some '\n'
  | 'v' => some '\x0b'
  | 'f' => some '\x0c'
  | 'r' => some '\r'
  | 'e' => some '\x1b'
  | ' ' => some ' '
  | '\x22' => some '\x22'
  | '/' => some '/'
  | '\\' => some '\\'
  | 'N' => some '\u0085'
  | '_' => some '\u00a0'
  | 'L' => some '\u2028'
  | 'P' => some '\u2029'
  | _ => none

/-- How many hexadecimal digits follow an escape letter. -/
def codeLength? : Char → Option Nat
  | 'x' => some 2
  | 'u' => some 4
  | 'U' => some 8
  | _ => none

/-- The number that hexadecimal digits write. -/
def hexNumber? (digits : List Char) : Option Nat :=
  digits.foldl (fun n c => do return (← n) * 16 + (← hexValue? c)) (some 0)

/-- The escape at a backslash, and the place after it. -/
def readEscape (c : Cursor) : Except Error (Char × Cursor) :=
  match c.peek 1 with
  | none => .error .badEscape
  | some letter =>
    match simpleEscape? letter, codeLength? letter with
    | some x, _ => .ok (x, c.advance 2)
    | none, none => .error .badEscape
    | none, some n =>
      let digits := (c.rest.drop 2).take n
      match hexNumber? digits with
      | none => .error .badEscape
      | some code =>
        if digits.length = n ∧ code.isValidChar then .ok (Char.ofNat code, c.advance (2 + n))
        else .error .badEscape

/-- The characters up to the closing quote, a blank or a line break.  The flag says that the run
ended at an escaped line break, which has been passed. -/
def readRun (single : Bool) : Nat → Cursor → String → Except Error (String × Cursor × Bool)
  | 0, c, out => .ok (out, c, false)
  | n + 1, c, out =>
    match c.head with
    | none => .ok (out, c, false)
    | some x =>
      if isBlank x || isBreak x then .ok (out, c, false)
      else if single && x = '\x27' && c.sees 1 '\x27' then
        readRun single n (c.advance 2) (out.push '\x27')
      else if x = (if single then '\x27' else '\x22') then .ok (out, c, false)
      else if !single && x = '\\' && c.seesClass 1 isBreak then
        .ok (out, (c.advance 1).takeBreak.2, true)
      else if !single && x = '\\' then do
        let (y, c) ← readEscape c
        readRun single n c (out.push y)
      else readRun single n (c.advance 1) (out.push x)

/-- Blanks and line breaks: the blanks before the first break, the first break, and the further
breaks. -/
structure Gap where
  /-- The blanks, if no break was met. -/
  blanks : String
  /-- The first break. -/
  first : String
  /-- The breaks after the first. -/
  more : String
  /-- Whether a break was met. -/
  broken : Bool

/-- The text a gap stands for. -/
def Gap.text (g : Gap) : String := if g.broken then foldedBreaks g.first g.more else g.blanks

/-- The blanks and breaks at the cursor. -/
def readGap : Nat → Cursor → Gap → Gap × Cursor
  | 0, c, g => (g, c)
  | n + 1, c, g =>
    match c.head with
    | none => (g, c)
    | some x =>
      if isBlank x then
        readGap n (c.advance 1) (if g.broken then g else { g with blanks := g.blanks.push x })
      else if isBreak x then
        let (text, c) := c.takeBreak
        readGap n c
          (if g.broken then { g with more := g.more ++ text }
           else { g with blanks := "", first := text, broken := true })
      else (g, c)

/-- The scalar's content and the place of its closing quote. -/
def readContent (single : Bool) : Nat → Cursor → String → Except Error (String × Cursor)
  | 0, _, _ => .error .unclosedQuote
  | n + 1, c, out => do
    if c.atDocumentMarker || c.rest.isEmpty then throw .unclosedQuote
    let (out, c, escaped) ← readRun single (c.size + 1) c out
    if c.head = some (if single then '\x27' else '\x22') then return (out, c)
    let (gap, c) := readGap (c.size + 1) c ⟨"", "", "", escaped⟩
    readContent single n c (out ++ gap.text)

/-- The quoted scalar at the cursor, and the place after its closing quote. -/
def read (single : Bool) (c : Cursor) : Except Error (String × Cursor) := do
  let c := c.advance 1
  let (text, c) ← readContent single (c.size + 1) c ""
  return (text, c.advance 1)

end CwlCompliance.Yaml.Quoted
