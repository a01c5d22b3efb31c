import CwlCompliance.Script.Sum
import CwlCompliance.Script.Tool.Basic

/-!
# Printing

The tools that print their arguments.

## Main definitions

* `escapeAt?` — the character that stands after a backslash.
* `Tool.echo`, `Tool.echoPlain` — arguments on a line, with escapes read or not.
* `Tool.printf` — arguments in a format.
-/

namespace CwlCompliance.Script

/-! ### Escapes -/

/-- The value of an octal digit. -/
def octal? (c : Char) : Option Nat := if '0' ≤ c ∧ c ≤ '7' then some (c.toNat - 48) else none

/-- The number that octal digits at the start of a text write, at most so many of them, and how many
there are. -/
def octalFrom : Nat → List Char → Nat × Nat
  | 0, _ => (0, 0)
  | _, [] => (0, 0)
  | n + 1, c :: rest =>
    match octal? c with
    | none => (0, 0)
    | some d =>
      let (value, width) := octalFrom n rest
      (d * Nat.pow 8 width + value, width + 1)

/-- The character with the low bits of a number. -/
def octet (n : Nat) : Char := Char.ofNat (n % 256)

/-- What letters after a backslash stand for. -/
def letterEscapes : List (Char × Char) := [
  ('a', '\x07'), ('b', '\x08'), ('e', '\x1b'), ('f', '\x0c'), ('n', '\n'), ('r', '\r'), ('t', '\t'),
  ('v', '\x0b'), ('\\', '\\')]

/-- The character that a backslash and what follows it stand for, and how much of that belongs to
it. -/
def escapeAt? (cs : List Char) : Option (Char × Nat) :=
  match cs with
  | [] => none
  | c :: _ =>
    match letterEscapes.lookup c with
    | some d => some (d, 1)
    | none =>
      match octalFrom 3 cs with
      | (_, 0) => none
      | (value, width) => some (octet value, width)

/-- As `escapeAt?`, but a zero before octal digits does not count as one of them. -/
def argumentEscapeAt? (cs : List Char) : Option (Char × Nat) :=
  match cs with
  | '0' :: rest =>
    let (value, width) := octalFrom 3 rest
    some (octet value, width + 1)
  | _ => escapeAt? cs

/-- A text with its escapes read, and whether one of them ends all printing; `n` bounds the length. -/
def unescaped : Nat → List Char → List Char × Bool
  | 0, _ => ([], false)
  | _, [] => ([], false)
  | _, '\\' :: 'c' :: _ => ([], true)
  | n + 1, '\\' :: rest =>
    match argumentEscapeAt? rest with
    | some (c, width) =>
      let (cs, stops) := unescaped n (rest.drop width)
      (c :: cs, stops)
    | none =>
      let (cs, stops) := unescaped n rest
      ('\\' :: cs, stops)
  | n + 1, c :: rest =>
    let (cs, stops) := unescaped n rest
    (c :: cs, stops)

/-! ### Numbers -/

/-- The number that an argument writes, with a complaint if it does not write one only. -/
def numberArgument (s : String) : Int × Option String :=
  match s.toList with
  | [] => (0, none)
  | '\x27' :: c :: _ | '\x22' :: c :: _ => (c.toNat, none)
  | cs =>
    let cs := cs.dropWhile Sum.isBlank
    let negative := cs.head? = some '-'
    let digits := if negative ∨ cs.head? = some '+' then cs.drop 1 else cs
    if !(digits.head?.any Char.isDigit) then (0, some (s ++ ": expected numeric value"))
    else
      let (n, rest) := Sum.numberFrom digits
      (if negative then -(n : Int) else n,
        if rest.isEmpty then none else some (s ++ ": not completely converted"))

/-- The digits of a number in a base. -/
def digitsIn (base : Nat) (isCapital : Bool) (n : Nat) : List Char :=
  let ds := Nat.toDigits base n
  if isCapital then ds.map Char.toUpper else ds

/-! ### Formats -/

/-- A directive of a format. -/
structure Directive where
  /-- Its flags. -/
  flags : List Char := []
  /-- The least width. -/
  width : Nat := 0
  /-- The precision. -/
  precision? : Option Nat := none

namespace Directive

/-- A text filled up to the width. -/
def fill (d : Directive) (cs : List Char) : List Char :=
  let gap := List.replicate (d.width - cs.length) ' '
  if d.flags.contains '-' then cs ++ gap else gap ++ cs

/-- A number with its sign or mark, filled up to the width. -/
def fillNumber (d : Directive) (mark digits : List Char) : List Char :=
  match d.precision? with
  | some p => d.fill (mark ++ List.replicate (p - digits.length) '0' ++ digits)
  | none =>
    if d.flags.contains '0' && !d.flags.contains '-' then
      mark ++ List.replicate (d.width - mark.length - digits.length) '0' ++ digits
    else d.fill (mark ++ digits)

/-- The digits of a number; zero has none where the precision is zero. -/
def digitsOf (d : Directive) (base : Nat) (isCapital : Bool) (n : Nat) : List Char :=
  if n = 0 ∧ d.precision? = some 0 then [] else digitsIn base isCapital n

/-- An integer with a sign. -/
def signed (d : Directive) (n : Int) : List Char :=
  let n := max (-Sum.greatest - 1) (min n Sum.greatest)
  let mark :=
    if n < 0 then ['-'] else if d.flags.contains '+' then ['+'] else if d.flags.contains ' ' then [' ']
    else []
  d.fillNumber mark (d.digitsOf 10 false n.natAbs)

/-- An integer without a sign; negative ones count from the largest. -/
def unsigned (d : Directive) (c : Char) (n : Int) : List Char :=
  let n := (n % 18446744073709551616).toNat
  let marked := d.flags.contains '#' && n ≠ 0
  match c with
  | 'o' => d.fillNumber [] ((if marked then ['0'] else []) ++ d.digitsOf 8 false n)
  | 'x' => d.fillNumber (if marked then "0x".toList else []) (d.digitsOf 16 false n)
  | 'X' => d.fillNumber (if marked then "0X".toList else []) (d.digitsOf 16 true n)
  | _ => d.fillNumber [] (d.digitsOf 10 false n)

/-- A text, cut at the precision. -/
def text (d : Directive) (cs : List Char) : List Char :=
  d.fill (match d.precision? with | some p => cs.take p | none => cs)

end Directive

/-- What is printed by a format so far. -/
structure Printing where
  /-- What is printed, in pieces, the last first. -/
  pieces : List (List Char) := []
  /-- The complaints, the last first. -/
  complaints : List String := []
  /-- The arguments that are left. -/
  arguments : List String
  /-- Whether printing has come to its end. -/
  hasStopped : Bool := false
  /-- The exit code. -/
  code : Nat := 0

namespace Printing

/-- One more piece. -/
def add (cs : List Char) (p : Printing) : Printing := { p with pieces := cs :: p.pieces }

/-- The next argument, and printing without it. -/
def next (p : Printing) : Option String × Printing :=
  (p.arguments.head?, { p with arguments := p.arguments.drop 1 })

/-- The next argument as a number, and printing without it. -/
def nextNumber (p : Printing) : Int × Printing :=
  match p.next with
  | (none, p) => (0, p)
  | (some s, p) =>
    match numberArgument s with
    | (n, none) => (n, p)
    | (n, some c) => (n, { p with complaints := c :: p.complaints, code := 1 })

/-- Printing that is stopped by a complaint. -/
def stop (complaint : String) (p : Printing) : Printing :=
  { p with complaints := complaint :: p.complaints, hasStopped := true, code := 2 }

/-- A number in a format: digits, or a star for the next argument. -/
def sizeAt (cs : List Char) (p : Printing) : Option Int × List Char × Printing :=
  match cs with
  | '*' :: rest =>
    let (n, p) := p.nextNumber
    (some n, rest, p)
  | _ =>
    let ds := cs.takeWhile Char.isDigit
    ((String.ofList ds).toNat?.map Int.ofNat, cs.drop ds.length, p)

/-- What a directive prints, given the letter that ends it. -/
def convert (d : Directive) (written : List Char) (c : Char) (p : Printing) : Printing :=
  if c = 's' then
    let (s?, p) := p.next
    p.add (d.text (s?.getD "").toList)
  else if c = 'b' then
    let (s?, p) := p.next
    let cs := (s?.getD "").toList
    let (out, stops) := unescaped cs.length cs
    { p.add (d.text out) with hasStopped := stops }
  else if c = 'c' then
    let (s?, p) := p.next
    p.add (d.fill [(s?.bind fun s => s.toList.head?).getD '\x00'])
  else if c = 'd' ∨ c = 'i' then
    let (n, p) := p.nextNumber
    p.add (d.signed n)
  else if ['o', 'u', 'x', 'X'].contains c then
    let (n, p) := p.nextNumber
    p.add (d.unsigned c n)
  else p.stop ("%" ++ String.ofList (written ++ [c]) ++ ": invalid directive")

/-- A directive after its percent sign, and what follows it. -/
def directive (cs : List Char) (p : Printing) : List Char × Printing :=
  let flags := cs.takeWhile fun c => "#-+ 0".toList.contains c
  let (width?, rest, p) := p.sizeAt (cs.drop flags.length)
  let flags := if width?.any (· < 0) then '-' :: flags else flags
  let (precision?, rest, p) :=
    match rest with
    | '.' :: more =>
      let (n?, rest, p) := p.sizeAt more
      (some (n?.getD 0).toNat, rest, p)
    | _ => (none, rest, p)
  let d : Directive := { flags, width := (width?.getD 0).natAbs, precision? }
  match rest with
  | [] => ([], p.stop "missing format character")
  | c :: after => (after, p.convert d (cs.take (cs.length - rest.length)) c)

/-- A format once; `n` bounds its length. -/
def once : Nat → List Char → Printing → Printing
  | 0, _, p => p
  | _, [], p => p
  | n + 1, cs, p =>
    if p.hasStopped then p
    else
      match cs with
      | [] => p
      | '%' :: '%' :: rest => once n rest (p.add ['%'])
      | '%' :: rest =>
        let (after, p) := p.directive rest
        once n after p
      | '\\' :: rest =>
        match escapeAt? rest with
        | some (c, width) => once n (rest.drop width) (p.add [c])
        | none => once n rest (p.add ['\\'])
      | c :: rest => once n rest (p.add [c])

/-- A format as often as there are arguments that it takes, at least once. -/
def repeatedly (format : List Char) : Nat → Printing → Printing
  | 0, p => p
  | n + 1, p =>
    let q := once format.length format p
    if q.hasStopped || q.arguments.isEmpty || q.arguments.length = p.arguments.length then q
    else repeatedly format n q

end Printing

namespace Tool

/-- Prints its arguments in a format. -/
def printf : Tool := fun c =>
  let args := match c.arguments with | "--" :: rest => rest | args => args
  match args with
  | [] => .failure "printf: usage: printf format [arg ...]" 2
  | format :: arguments =>
    let p := Printing.repeatedly format.toList (arguments.length + 1) { arguments }
    { stdout := p.pieces.reverse.flatten
      stderr := p.complaints.reverse.flatMap fun m => ("printf: " ++ m ++ "\n").toList
      code := p.code }

/-- Prints its arguments on a line, with their escapes read. -/
def echo : Tool := fun c =>
  let (args, ending) := match c.arguments with
    | "-n" :: rest => (rest, [])
    | args => (args, ['\n'])
  let cs := (" ".intercalate args).toList
  let (out, stops) := unescaped cs.length cs
  { stdout := if stops then out else out ++ ending }

/-- Whether an argument is an option of `echoPlain`. -/
def isEchoOption (s : String) : Bool :=
  match s.toList with
  | '-' :: c :: rest => (c :: rest).all fun c => c = 'n' || c = 'e' || c = 'E'
  | _ => false

/-- Prints its arguments on a line as they are. -/
def echoPlain : Tool := fun c =>
  let options := c.arguments.takeWhile isEchoOption
  let letters := options.flatMap fun s => s.toList
  let cs := (" ".intercalate (c.arguments.drop options.length)).toList
  let ending := if letters.contains 'n' then [] else ['\n']
  let reads := (letters.filter (· ≠ 'n')).getLast? = some 'e'
  if reads then
    let (out, stops) := unescaped cs.length cs
    { stdout := if stops then out else out ++ ending }
  else { stdout := cs ++ ending }

end Tool

end CwlCompliance.Script
