import CwlCompliance.Yaml.Scalar

/-!
# How a scalar is written

A text is written in the plainest of four styles that reads back as the same text: plain, in single
quotes, as a literal block of lines, or in double quotes with escapes.

## Main definitions

* `ScalarStyle`, `ScalarStyle.ofText` — the styles and the one that a text takes.
* `Scalar.written` — the characters of a scalar in a style.
-/

namespace CwlCompliance.Yaml

open Character

/-- The styles in which a scalar is written. -/
inductive ScalarStyle where
  /-- As it is. -/
  | plain
  /-- In single quotes. -/
  | quoted
  /-- As a block of lines. -/
  | literal
  /-- In double quotes, with escapes. -/
  | escaped
  deriving DecidableEq, Repr

namespace Scalar

/-! ### What a text is like -/

/-- The characters that can be written without an escape. -/
def isPrintable (c : Char) : Bool :=
  let n := c.toNat
  n = 0x0A || (0x20 ≤ n && n ≤ 0x7E) || (0xA0 ≤ n && n ≤ 0xFFFD && n ≠ 0xFEFF) || 0x10000 ≤ n

/-- A gap: a blank, a break, or the end of the text. -/
def isGap (c : Option Char) : Bool :=
  match c with
  | none => true
  | some c => isBlank c || isBreak c || c = '\x00'

/-- The characters that cannot start a plain scalar. -/
def isLeadingIndicator (c : Char) : Bool :=
  ['#', ',', '[', ']', '\x7b', '\x7d', '&', '*', '!', '|', '>', '\x27', '\x22', '%', '@', '\x60'].contains c

/-- Whether a text starts with something that is no plain scalar. -/
def startsSpecially : List Char → Bool
  | '-' :: '-' :: '-' :: _ => true
  | '.' :: '.' :: '.' :: _ => true
  | c :: rest =>
    isLeadingIndicator c || ((c = '?' || c = ':' || c = '-') && isGap rest.head?)
  | [] => false

/-- Whether a text has a colon before a gap or a hash after one, when `before` came before it. -/
def hasInnerIndicator (before : Char) : List Char → Bool
  | [] => false
  | c :: rest =>
    (c = ':' && isGap rest.head?) || (c = '#' && isGap (some before)) || hasInnerIndicator c rest

/-- Whether a character of one class is followed by one of another. -/
def hasPair (p q : Char → Bool) : List Char → Bool
  | c :: d :: rest => (p c && q d) || hasPair p q (d :: rest)
  | _ => false

/-- The space. -/
def isPlainSpace (c : Char) : Bool := c = ' '

/-- Whether a text can be written plain. -/
def allowsPlain (cs : List Char) : Bool :=
  cs.all (fun c => isPrintable c && !isBreak c) &&
    !cs.head?.any isPlainSpace && !cs.getLast?.any isPlainSpace &&
    !startsSpecially cs && !(match cs with | [] => false | c :: rest => hasInnerIndicator c rest)

/-- Whether a text can be written in single quotes. -/
def allowsQuoted (cs : List Char) : Bool :=
  cs.all isPrintable && !hasPair isPlainSpace isBreak cs && !hasPair isBreak isPlainSpace cs

/-- Whether a text can be written as a block of lines. -/
def allowsLiteral (cs : List Char) : Bool :=
  cs.all isPrintable && !cs.getLast?.any isPlainSpace && !hasPair isPlainSpace isBreak cs

/-- Whether a text without quotes would be read as something else than a text. -/
def readsDifferently (s : String) : Bool :=
  isPadded s.toList ||
    (match plainValue s with
      | .ok (.string _) => false
      | _ => true)

end Scalar

namespace ScalarStyle

open Scalar

/-- The style that a text takes: lines make a block, what would read differently is quoted, and the
rest is plain; a style that cannot hold the text gives way to the next. -/
def ofText (s : String) : ScalarStyle :=
  let cs := s.toList
  if cs.contains '\n' then
    if allowsLiteral cs then literal else escaped
  else if !readsDifferently s && allowsPlain cs then plain
  else if allowsQuoted cs then quoted
  else escaped

end ScalarStyle

namespace Scalar

/-! ### The characters that are written -/

/-- The start of a line at a depth. -/
def padding (n : Nat) : List Char := List.replicate n ' '

/-- The characters between single quotes.  A line after a break starts at the depth. -/
def quotedChars (indent : Nat) : Bool → List Char → List Char
  | broken, [] => if broken then padding indent else []
  | broken, c :: rest =>
    if isBreak c then c :: quotedChars indent true rest
    else
      (if broken then padding indent else []) ++ (if c = '\x27' then ['\x27', c] else [c]) ++
        quotedChars indent false rest

/-- The characters of a block of lines. -/
def literalChars (indent : Nat) : Bool → List Char → List Char
  | _, [] => []
  | broken, c :: rest =>
    if isBreak c then c :: literalChars indent true rest
    else (if broken then padding indent else []) ++ c :: literalChars indent false rest

/-- The marks after the bar of a block: the depth if it cannot be seen from the first line, and
whether the breaks at the end are dropped or kept. -/
def literalHints (cs : List Char) : List Char :=
  (if cs.head?.any (fun c => isPlainSpace c || isBreak c) then ['2'] else []) ++
    match cs.reverse with
    | [] => ['-']
    | [c] => if isBreak c then ['+'] else ['-']
    | c :: d :: _ => if !isBreak c then ['-'] else if isBreak d then ['+'] else []

/-- A hexadecimal digit in capitals. -/
def capitalDigit (n : Nat) : Char := if n < 10 then Char.ofNat (48 + n) else Char.ofNat (55 + n)

/-- So many hexadecimal digits of a number, in capitals. -/
def capitalHex (width n : Nat) : List Char :=
  (List.range width).map fun i => capitalDigit (n / Nat.pow 16 (width - 1 - i) % 16)

/-- The letter that escapes a character, if it has one. -/
def escapeLetter? (c : Char) : Option Char :=
  [('\x00', '0'), ('\x07', 'a'), ('\x08', 'b'), ('\t', 't'), ('\n', 'n'), ('\x0b', 'v'),
    ('\x0c', 'f'), ('\r', 'r'), ('\x1b', 'e'), ('\x22', '\x22'), ('\\', '\\'), ('\u0085', 'N'),
    ('\u00a0', '_'), ('\u2028', 'L'), ('\u2029', 'P')].lookup c

/-- A character between double quotes. -/
def escapedChar (c : Char) : List Char :=
  if isPrintable c && !isBreak c && c ≠ '\x22' && c ≠ '\\' then [c]
  else
    match escapeLetter? c with
    | some letter => ['\\', letter]
    | none =>
      let n := c.toNat
      if n ≤ 0xFF then '\\' :: 'x' :: capitalHex 2 n
      else if n ≤ 0xFFFF then '\\' :: 'u' :: capitalHex 4 n
      else '\\' :: 'U' :: capitalHex 8 n

/-- A text in a style, its further lines starting at a depth.  What is written ends a line only if
the block that it is does. -/
def written (indent : Nat) (style : ScalarStyle) (s : String) : List Char :=
  let cs := s.toList
  match style with
  | .plain => cs
  | .quoted => '\x27' :: quotedChars indent false cs ++ ['\x27']
  | .literal => '|' :: literalHints cs ++ '\n' :: literalChars indent true cs
  | .escaped => '\x22' :: cs.flatMap escapedChar ++ ['\x22']

end Scalar

end CwlCompliance.Yaml
