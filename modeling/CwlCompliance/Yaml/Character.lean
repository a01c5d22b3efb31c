/-!
# Characters of a YAML text

The character classes that the lexical rules speak of, and a cursor that walks a text while
counting lines and columns.

## Main definitions

* `Character.isBreak`, `Character.isBlank`, `Character.isWord` — the classes.
* `Cursor` — what is left of a text and where that is.
-/

namespace CwlCompliance.Yaml

namespace Character

/-- The characters that YAML admits in a document. -/
def isAllowed (c : Char) : Bool :=
  let n := c.toNat
  n = 9 || n = 10 || n = 13 || (0x20 ≤ n && n ≤ 0x7E) || n = 0x85 ||
    (0xA0 ≤ n && n ≤ 0xD7FF) || (0xE000 ≤ n && n ≤ 0xFFFD) || 0x10000 ≤ n

/-- Line breaks: carriage return, line feed, next line, line and paragraph separator. -/
def isBreak (c : Char) : Bool :=
  c = '\r' || c = '\n' || c = '\u0085' || c = '\u2028' || c = '\u2029'

/-- Blanks: the space and the tab. -/
def isBlank (c : Char) : Bool := c = ' ' || c = '\t'

/-- Word characters: ASCII letters and digits, the hyphen and the underscore. -/
def isWord (c : Char) : Bool := c.isAlphanum || c = '-' || c = '_'

/-- The indicators that end a plain scalar inside brackets. -/
def isFlowIndicator (c : Char) : Bool :=
  c = ',' || c = '[' || c = ']' || c = '\x7b' || c = '\x7d'

/-- The value of a hexadecimal digit. -/
def hexValue? (c : Char) : Option Nat :=
  if c.isDigit then some (c.toNat - 48)
  else if 'a' ≤ c ∧ c ≤ 'f' then some (c.toNat - 87)
  else if 'A' ≤ c ∧ c ≤ 'F' then some (c.toNat - 55)
  else none

end Character

open Character

/-- A place in a text: what follows it, the characters before it, its line and its column. -/
structure Cursor where
  /-- The characters not yet read. -/
  rest : List Char
  /-- How many characters have been read. -/
  index : Nat
  /-- How many lines have been read. -/
  line : Nat
  /-- How many characters of the current line have been read. -/
  column : Nat
  /-- How many characters the whole text has: no walk over it takes more steps. -/
  size : Nat

namespace Cursor

/-- The start of a text. -/
def start (text : List Char) : Cursor := ⟨text, 0, 0, 0, text.length⟩

/-- The character `n` places ahead. -/
def peek (c : Cursor) (n : Nat) : Option Char := c.rest[n]?

/-- The next character. -/
def head (c : Cursor) : Option Char := c.rest.head?

/-- Whether the character `n` places ahead is `x`. -/
def sees (c : Cursor) (n : Nat) (x : Char) : Bool := c.peek n == some x

/-- Whether the character `n` places ahead is in a class; the end of the text is in none. -/
def seesClass (c : Cursor) (n : Nat) (p : Char → Bool) : Bool := (c.peek n).any p

/-- Whether a blank, a line break or the end of the text is `n` places ahead. -/
def seesGap (c : Cursor) (n : Nat) : Bool :=
  match c.peek n with
  | none => true
  | some x => isBlank x || isBreak x

/-- Whether a line break or the end of the text is next. -/
def atLineEnd (c : Cursor) : Bool :=
  match c.head with
  | none => true
  | some x => isBreak x

/-- Past `n` characters of one line. -/
def advance (c : Cursor) (n : Nat) : Cursor :=
  { c with rest := c.rest.drop n, index := c.index + n, column := c.column + n }

/-- Past the characters of one line that are in a class. -/
def advanceWhile (c : Cursor) (p : Char → Bool) : Cursor :=
  let n := (c.rest.takeWhile p).length
  { c with rest := c.rest.dropWhile p, index := c.index + n, column := c.column + n }

/-- Past a line break, if one is next, with the break as the document's value shows it: the two
separators stand for themselves and every other break is a line feed. -/
def takeBreak (c : Cursor) : String × Cursor :=
  match c.rest with
  | '\r' :: '\n' :: rest => ("\n", ⟨rest, c.index + 2, c.line + 1, 0, c.size⟩)
  | x :: rest =>
    if x = '\u2028' ∨ x = '\u2029' then (x.toString, ⟨rest, c.index + 1, c.line + 1, 0, c.size⟩)
    else if isBreak x then ("\n", ⟨rest, c.index + 1, c.line + 1, 0, c.size⟩)
    else ("", c)
  | [] => ("", c)

/-- Past blanks and a comment, up to the end of the line or the next other character. -/
def advanceComment (c : Cursor) : Cursor :=
  let c := c.advanceWhile isBlank
  if c.sees 0 '#' then c.advanceWhile (fun x => !isBreak x) else c

/-- Whether a document marker made of three characters `x` stands here at the start of a line. -/
def atMarker (c : Cursor) (x : Char) : Bool :=
  c.column = 0 && c.sees 0 x && c.sees 1 x && c.sees 2 x && c.seesGap 3

/-- Whether either document marker stands here. -/
def atDocumentMarker (c : Cursor) : Bool := c.atMarker '-' || c.atMarker '.'

end Cursor

end CwlCompliance.Yaml
