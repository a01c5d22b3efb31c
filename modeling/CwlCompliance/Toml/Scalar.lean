import CwlCompliance.Decimal.Double
import CwlCompliance.Toml.Value

/-!
# TOML strings, numbers and dates

The values that are not collections.  A reader takes characters and gives back a value with the
characters after it, or nothing if what is there is malformed.

## Main definitions

* `Toml.quotedText?`, `Toml.blockText?`, `Toml.string?` — strings on one line and on several.
* `Toml.number?`, `Toml.datetime?` — numbers and dates.
-/

namespace CwlCompliance.Toml

/-- A reader of something. -/
abbrev Reader (α : Type) := List Char → Option (α × List Char)

/-- Blanks: the space and the tab. -/
def isBlank (c : Char) : Bool := c = ' ' || c = '\t'

/-- The characters that may stand in comments and strings: no controls but the tab. -/
def isText (c : Char) : Bool := c = '\t' || (0x20 ≤ c.toNat && c.toNat ≠ 0x7F)

/-- A line break. -/
def newline? : Reader Unit
  | '\n' :: rest => some ((), rest)
  | '\r' :: '\n' :: rest => some ((), rest)
  | _ => none

/-- What follows blanks. -/
def skipBlanks (cs : List Char) : List Char := cs.dropWhile isBlank

/-! ### Strings -/

/-- The value of a hexadecimal digit. -/
def hexValue? (c : Char) : Option Nat :=
  if c.isDigit then some (c.toNat - 48)
  else if 'a' ≤ c ∧ c ≤ 'f' then some (c.toNat - 87)
  else if 'A' ≤ c ∧ c ≤ 'F' then some (c.toNat - 55)
  else none

/-- The character numbered by so many hexadecimal digits. -/
def numbered? (width : Nat) : Reader Char := fun cs => do
  let ds := cs.take width
  if ds.length < width then none
  let n ← ds.foldlM (fun n c => (hexValue? c).map (n * 16 + ·)) 0
  if n.isValidChar then some (Char.ofNat n, cs.drop width) else none

/-- The character after a backslash. -/
def escape? : Reader Char
  | 'b' :: rest => some ('\x08', rest)
  | 'f' :: rest => some ('\x0c', rest)
  | 'n' :: rest => some ('\n', rest)
  | 'r' :: rest => some ('\r', rest)
  | 't' :: rest => some ('\t', rest)
  | '\x22' :: rest => some ('\x22', rest)
  | '\\' :: rest => some ('\\', rest)
  | 'u' :: rest => numbered? 4 rest
  | 'U' :: rest => numbered? 8 rest
  | _ => none

/-- The rest of a string on one line, up to its quote; only between double quotes are there escapes.
`fuel` bounds the characters. -/
def quotedText? (quote : Char) : Nat → List Char → Reader String
  | 0, _, _ => none
  | _ + 1, _, [] => none
  | fuel + 1, done, c :: rest =>
    if c = quote then some (String.ofList done.reverse, rest)
    else if c = '\\' ∧ quote = '\x22' then do
      let (d, rest) ← escape? rest
      quotedText? quote fuel (d :: done) rest
    else if isText c then quotedText? quote fuel (c :: done) rest
    else none

/-- How many of these characters start a text. -/
def leading (c : Char) (cs : List Char) : Nat := (cs.takeWhile (· = c)).length

/-- What follows blanks and line breaks. -/
def skipLines : List Char → List Char
  | '\r' :: '\n' :: rest => skipLines rest
  | c :: rest => if isBlank c ∨ c = '\n' then skipLines rest else c :: rest
  | [] => []

/-- The rest of a string on several lines, up to its three quotes; up to two more quotes before them
belong to the string.  `fuel` bounds the characters. -/
def blockText? (quote : Char) : Nat → List Char → Reader String
  | 0, _, _ => none
  | _ + 1, _, [] => none
  | fuel + 1, done, c :: rest =>
    if c = quote then
      let n := leading quote (c :: rest)
      if n < 3 then blockText? quote fuel (c :: done) rest
      else if 5 < n then none
      else
        let text := List.replicate (n - 3) quote ++ done
        some (String.ofList text.reverse, (c :: rest).drop n)
    else if c = '\\' ∧ quote = '\x22' then
      match newline? (skipBlanks rest) with
      | some (_, after) => blockText? quote fuel done (skipLines after)
      | none => do
        let (d, rest) ← escape? rest
        blockText? quote fuel (d :: done) rest
    else
      match newline? (c :: rest) with
      | some (_, after) => blockText? quote fuel ('\n' :: done) after
      | none => if isText c then blockText? quote fuel (c :: done) rest else none

/-- A string that starts with a quote. -/
def string? (quote : Char) : Reader String := fun cs =>
  match cs.drop 1 with
  | b :: c :: rest =>
    if b = quote ∧ c = quote then
      let body := match newline? rest with
        | some (_, after) => after
        | none => rest
      blockText? quote (body.length + 1) [] body
    else quotedText? quote (cs.length + 1) [] (b :: c :: rest)
  | rest => quotedText? quote (cs.length + 1) [] rest

/-! ### Numbers -/

/-- Digits of a class, single underscores between them. -/
def digits? (isDigit : Char → Bool) : Reader (List Char)
  | [] => none
  | c :: rest =>
    if isDigit c then
      match rest with
      | '_' :: after => (digits? isDigit after).map fun (ds, left) => (c :: ds, left)
      | d :: after =>
        if isDigit d then (digits? isDigit (d :: after)).map fun (ds, left) => (c :: ds, left)
        else some ([c], rest)
      | [] => some ([c], [])
    else none

/-- The sign before a number. -/
def sign : List Char → Option Char × List Char
  | '+' :: rest => (some '+', rest)
  | '-' :: rest => (some '-', rest)
  | cs => (none, cs)

/-- The digits of a decimal number, with no zero before others. -/
def decimal? : Reader (List Char)
  | '0' :: rest => some (['0'], rest)
  | cs => digits? Char.isDigit cs

/-- The number that digits of a base write. -/
def natOf (base : Nat) (ds : List Char) : Nat :=
  ds.foldl (fun n c => n * base + (hexValue? c).getD 0) 0

/-- An integer in the range of 64 bits. -/
def inRange? (i : Int) : Option Value :=
  if -9223372036854775808 ≤ i ∧ i < 9223372036854775808 then some (.integer i) else none

/-- The fraction of a number: a point and digits. -/
def fraction : List Char → Option (Option (List Char) × List Char)
  | '.' :: rest => (digits? Char.isDigit rest).map fun (ds, left) => (some ds, left)
  | cs => some (none, cs)

/-- The exponent of a number. -/
def exponent : List Char → Option (Option Int × List Char)
  | c :: rest =>
    if c = 'e' ∨ c = 'E' then
      let (s, rest) := sign rest
      (digits? Char.isDigit rest).map fun (ds, left) =>
        let n : Int := natOf 10 ds
        (some (if s = some '-' then -n else n), left)
    else some (none, c :: rest)
  | [] => some (none, [])

/-- A number with a base mark. -/
def based? (base : Nat) (isDigit : Char → Bool) : Reader Value := fun cs => do
  let (ds, rest) ← digits? isDigit cs
  return (← inRange? (natOf base ds), rest)

/-- A number: an integer, or one with a fraction or an exponent, or one of the words for what is no
number or beyond all numbers. -/
def number? : Reader Value
  | '0' :: 'x' :: rest => based? 16 (fun c => (hexValue? c).isSome) rest
  | '0' :: 'o' :: rest => based? 8 (fun c => '0' ≤ c && c ≤ '7') rest
  | '0' :: 'b' :: rest => based? 2 (fun c => c = '0' || c = '1') rest
  | cs =>
    let (s, unsigned) := sign cs
    match unsigned with
    | 'i' :: 'n' :: 'f' :: rest => some (.float "inf", rest)
    | 'n' :: 'a' :: 'n' :: rest => some (.float "nan", rest)
    | _ => do
      let (whole, rest) ← decimal? unsigned
      let (frac, rest) ← fraction rest
      let (exp, rest) ← exponent rest
      let negative := s = some '-'
      if frac.isNone && exp.isNone then
        let n : Int := natOf 10 whole
        return (← inRange? (if negative then -n else n), rest)
      else
        let frac := frac.getD []
        let d := Double.ofDecimal negative (natOf 10 (whole ++ frac)) (exp.getD 0 - frac.length)
        if d = .infinite false then none
        else return (.float (String.ofList (cs.take (cs.length - rest.length))), rest)

/-! ### Dates -/

/-- So many decimal digits as a number within bounds. -/
def field? (width low high : Nat) : Reader Nat := fun cs =>
  let ds := cs.take width
  if ds.length = width ∧ ds.all Char.isDigit then
    let n := natOf 10 ds
    if low ≤ n ∧ n ≤ high then some (n, cs.drop width) else none
  else none

/-- A given character. -/
def mark? (c : Char) : Reader Unit
  | d :: rest => if c = d then some ((), rest) else none
  | [] => none

/-- How many days a month has. -/
def monthLength (year month : Nat) : Nat :=
  if month = 2 then
    if year % 4 = 0 ∧ (year % 100 ≠ 0 ∨ year % 400 = 0) then 29 else 28
  else if [4, 6, 9, 11].contains month then 30
  else 31

/-- A date. -/
def date? : Reader Unit := fun cs => do
  let (year, cs) ← field? 4 0 9999 cs
  let (_, cs) ← mark? '-' cs
  let (month, cs) ← field? 2 1 12 cs
  let (_, cs) ← mark? '-' cs
  let (_, cs) ← field? 2 1 (monthLength year month) cs
  return ((), cs)

/-- A time of day. -/
def time? : Reader Unit := fun cs => do
  let (_, cs) ← field? 2 0 23 cs
  let (_, cs) ← mark? ':' cs
  let (_, cs) ← field? 2 0 59 cs
  let (_, cs) ← mark? ':' cs
  let (_, cs) ← field? 2 0 60 cs
  match cs with
  | '.' :: rest =>
    let n := (rest.takeWhile Char.isDigit).length
    if n = 0 then none else return ((), rest.drop n)
  | _ => return ((), cs)

/-- What follows the offset of a time, if there is one. -/
def skipOffset : List Char → Option (List Char)
  | [] => some []
  | c :: rest =>
    if c = 'Z' ∨ c = 'z' then some rest
    else if c = '+' ∨ c = '-' then do
      let (_, cs) ← field? 2 0 23 rest
      let (_, cs) ← mark? ':' cs
      let (_, cs) ← field? 2 0 59 cs
      return cs
    else some (c :: rest)

/-- Whether a character stands between a date and a time. -/
def isTimeMark (c : Char) : Bool := c = 'T' || c = 't' || c = ' '

/-- A date, perhaps with a time, or a time alone. -/
def datetime? : Reader Value := fun cs =>
  let value := fun (rest : List Char) =>
    some (Value.datetime (String.ofList (cs.take (cs.length - rest.length))), rest)
  match date? cs with
  | none => (time? cs).bind fun (_, rest) => value rest
  | some (_, rest) =>
    match rest with
    | c :: after =>
      if isTimeMark c then
        match time? after with
        | some (_, rest) => (skipOffset rest).bind value
        | none => value rest
      else value rest
    | [] => value []

end CwlCompliance.Toml
