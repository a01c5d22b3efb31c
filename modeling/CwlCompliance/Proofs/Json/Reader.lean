import CwlCompliance.Json.Value
import CwlCompliance.Yaml.Character

/-!
# Reading JSON

A reader of JSON texts by the grammar of JSON.  It is not a reader of reports: it takes any white
space between the parts of a value, every escape, by letter or by code unit, and pairs of code
units for the characters that need two.  It refuses what the grammar refuses, such as a control
character inside quotes, a code unit of a pair on its own, a zero before other digits, a comma
before a closing bracket, or anything but white space after the value.  Numbers are whole numbers,
since these are the only ones that a `Value` holds.

## Main definitions

* `Json.Reader` — what takes something from the start of a list of characters.
* `Json.string?`, `Json.integer?`, `Json.value?` — the readers of strings, of numbers and of values.
* `Json.read?` — the value that a whole text writes.
-/

namespace CwlCompliance.Json

open Yaml.Character (hexValue?)

/-- A reader of something: it takes characters and gives back what they start with and the
characters after it, or nothing if what is there is malformed. -/
abbrev Reader (α : Type) := List Char → Option (α × List Char)

/-- The white space that may stand between the parts of a text. -/
def isSpace (c : Char) : Bool := c = ' ' || c = '\t' || c = '\n' || c = '\r'

/-- What follows white space. -/
def skipSpace (cs : List Char) : List Char := cs.dropWhile isSpace

/-! ### Strings -/

/-- The code unit that four hexadecimal digits write. -/
def codeUnit? : Reader Nat
  | a :: b :: c :: d :: rest => do
    let digits ← [a, b, c, d].mapM hexValue?
    return (digits.foldl (fun n digit => n * 16 + digit) 0, rest)
  | _ => none

/-- The character that a letter after a backslash stands for. -/
def letter? : Char → Option Char
  | '\x22' => some '\x22'
  | '\\' => some '\\'
  | '/' => some '/'
  | 'b' => some '\x08'
  | 'f' => some '\x0c'
  | 'n' => some '\n'
  | 'r' => some '\r'
  | 't' => some '\t'
  | _ => none

/-- The character that follows a backslash: a letter that stands for it, its code unit, or the
first of its two code units with the second, which is escaped as well. -/
def escaped? : Reader Char
  | 'u' :: rest => do
    let (high, rest) ← codeUnit? rest
    if high < 0xD800 ∨ 0xE000 ≤ high then return (Char.ofNat high, rest)
    -- from here on the code unit is one of two, and it has to be the first
    if 0xDC00 ≤ high then none
    match rest with
    | '\\' :: 'u' :: rest => do
      let (low, rest) ← codeUnit? rest
      if low < 0xDC00 ∨ 0xE000 ≤ low then none
      return (Char.ofNat (0x10000 + (high - 0xD800) * 0x400 + (low - 0xDC00)), rest)
    | _ => none
  | c :: rest => (letter? c).map (·, rest)
  | [] => none

/-- A character of a string.  Control characters have to be escaped. -/
def character? : Reader Char
  | [] => none
  | '\\' :: rest => escaped? rest
  | c :: rest => if c.toNat < 0x20 then none else some (c, rest)

/-- The characters of a string up to its closing quote.  `fuel` bounds their number. -/
def contents? : Nat → Reader (List Char)
  | 0, _ => none
  | fuel + 1, cs =>
    match cs with
    | '\x22' :: rest => some ([], rest)
    | cs => do
      let (c, rest) ← character? cs
      let (s, rest) ← contents? fuel rest
      return (c :: s, rest)

/-- A string in quotes. -/
def string? : Reader String
  | '\x22' :: rest =>
    (contents? (rest.length + 1) rest).map fun (s, rest) => (String.ofList s, rest)
  | _ => none

/-! ### Numbers -/

/-- A whole number without a sign.  No zero stands before other digits. -/
def natural? : Reader Nat := fun cs =>
  let digits := cs.takeWhile Char.isDigit
  if digits = [] ∨ (digits.head? = some '0' ∧ digits ≠ ['0']) then none
  else some (Nat.ofDigitChars 10 digits 0, cs.dropWhile Char.isDigit)

/-- A whole number. -/
def integer? : Reader Int
  | '-' :: rest => (natural? rest).map fun (n, rest) => (-(n : Int), rest)
  | cs => (natural? cs).map fun (n, rest) => ((n : Int), rest)

/-! ### Values -/

/-- A value that is no array and no object. -/
def scalar? : Reader Value
  | 'n' :: 'u' :: 'l' :: 'l' :: rest => some (.null, rest)
  | 't' :: 'r' :: 'u' :: 'e' :: rest => some (.bool true, rest)
  | 'f' :: 'a' :: 'l' :: 's' :: 'e' :: rest => some (.bool false, rest)
  | '\x22' :: rest => (string? ('\x22' :: rest)).map fun (s, rest) => (.string s, rest)
  | cs => (integer? cs).map fun (i, rest) => (.integer i, rest)

section Parts

variable {α : Type}

/-- Parts with commas between them, up to a closing bracket.  `fuel` bounds their number. -/
def parts? (close : Char) (part? : Reader α) : Nat → Reader (List α)
  | 0, _ => none
  | fuel + 1, cs => do
    let (a, rest) ← part? cs
    match skipSpace rest with
    | [] => none
    | c :: rest =>
      if c = close then return ([a], rest)
      if c ≠ ',' then none
      let (as, rest) ← parts? close part? fuel rest
      return (a :: as, rest)

/-- What follows an opening bracket, with the closing one: nothing, or parts. -/
def enclosed? (close : Char) (part? : Reader α) : Reader (List α) := fun cs =>
  match skipSpace cs with
  | [] => none
  | c :: rest => if c = close then some ([], rest) else parts? close part? cs.length (c :: rest)

end Parts

/-- A member of an object: its name, a colon and its value. -/
def member? (value? : Reader Value) : Reader (String × Value) := fun cs => do
  let (k, rest) ← string? (skipSpace cs)
  match skipSpace rest with
  | ':' :: rest => do
    let (v, rest) ← value? rest
    return ((k, v), rest)
  | _ => none

/-- A value, after white space.  `fuel` bounds how deep arrays and objects are nested. -/
def value? : Nat → Reader Value
  | 0, _ => none
  | fuel + 1, cs =>
    match skipSpace cs with
    | '[' :: rest => (enclosed? ']' (value? fuel) rest).map fun (vs, rest) => (.array vs, rest)
    | '\x7b' :: rest =>
      (enclosed? '\x7d' (member? (value? fuel)) rest).map fun (fs, rest) => (.object fs, rest)
    | cs => scalar? cs

/-- The value that a text writes, or nothing if it is malformed. -/
def read? (s : String) : Option Value := do
  let (v, rest) ← value? (s.length + 1) s.toList
  if skipSpace rest = [] then some v else none

end CwlCompliance.Json
