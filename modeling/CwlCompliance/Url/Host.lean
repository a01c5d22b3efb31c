import CwlCompliance.Domain.Ascii
import CwlCompliance.Url.Percent

/-!
# Hosts

The host of a URL is a domain in ASCII or an address.

## Main definitions

* `Host`, `Host.text` — hosts and how they are written.
* `Host.parse?`, `Host.parseOpaque?` — how they are read, in special and other URLs.
-/

namespace CwlCompliance

/-! ### Hosts -/

/-- The host of a URL. -/
inductive Host where
  /-- A name. -/
  | domain (name : String)
  /-- An address of 32 bits. -/
  | ipv4 (address : Nat)
  /-- An address of eight pieces of 16 bits. -/
  | ipv6 (pieces : List Nat)
  deriving DecidableEq, Repr

namespace Host

/-! ### Addresses of 32 bits -/

/-- The value of a hexadecimal digit. -/
def hexValue? (c : Char) : Option Nat :=
  if c.isDigit then some (c.toNat - 48)
  else if 'a' ≤ c ∧ c ≤ 'f' then some (c.toNat - 87)
  else if 'A' ≤ c ∧ c ≤ 'F' then some (c.toNat - 55)
  else none

/-- The number that digits of a base write. -/
def number? (base : Nat) (cs : List Char) : Option Nat :=
  cs.foldl
    (fun n c => do
      let n ← n
      let d ← hexValue? c
      if d < base then some (n * base + d) else none)
    (some 0)

/-- The number that a part of an address writes: hexadecimal after `0x`, octal after `0`. -/
def part? : List Char → Option Nat
  | [] => none
  | ['0'] => some 0
  | '0' :: 'x' :: rest => number? 16 rest
  | '0' :: 'X' :: rest => number? 16 rest
  | '0' :: rest => number? 8 rest
  | cs => number? 10 cs

/-- The parts of a name, without an empty one at the end. -/
def nameParts (cs : List Char) : List (List Char) :=
  let parts := Domain.splitAt '.' cs
  if parts.getLast? = some [] && 1 < parts.length then parts.dropLast else parts

/-- Whether the last part of a name is a number, so that it must be an address. -/
def endsInNumber (cs : List Char) : Bool :=
  match (nameParts cs).getLast? with
  | none => false
  | some last => !last.isEmpty && (last.all Char.isDigit || (part? last).isSome)

/-- The address that a name ending in a number writes: up to four parts, of which the last one
fills what the others leave. -/
def ipv4? (cs : List Char) : Option Nat := do
  let parts := nameParts cs
  if 4 < parts.length then none
  let numbers ← parts.mapM part?
  let last ← numbers.getLast?
  let firsts := numbers.dropLast
  if firsts.any (255 < ·) || Nat.pow 256 (4 - firsts.length) ≤ last then none
  else some (firsts.zipIdx.foldl (fun n (x, i) => n + x * Nat.pow 256 (3 - i)) last)

/-- The text of an address of 32 bits. -/
def ipv4Text (n : Nat) : String :=
  ".".intercalate ([3, 2, 1, 0].map fun i => toString (n / Nat.pow 256 i % 256))

/-! ### Addresses of 128 bits -/

/-- A piece of an address: one to four hexadecimal digits. -/
def piece? (cs : List Char) : Option Nat :=
  if cs.isEmpty || 4 < cs.length then none else number? 16 cs

/-- A decimal part of an address without zeros in front. -/
def decimalPart? (cs : List Char) : Option Nat := do
  if cs.isEmpty || 3 < cs.length || (1 < cs.length && cs.head? = some '0') then none
  let n ← number? 10 cs
  if n ≤ 255 then some n else none

/-- The two pieces that four decimal parts write. -/
def dottedPieces? (cs : List Char) : Option (List Nat) := do
  match ← (Domain.splitAt '.' cs).mapM decimalPart? with
  | [a, b, c, d] => some [a * 256 + b, c * 256 + d]
  | _ => none

/-- The pieces that parts write; the last part may be four decimal parts if that is allowed. -/
def pieces? (dotted : Bool) : List (List Char) → Option (List Nat)
  | [] => some []
  | [p] => if dotted && p.contains '.' then dottedPieces? p else (piece? p).map ([·])
  | p :: rest => do return (← piece? p) :: (← pieces? dotted rest)

/-- The parts of one side of an address; an empty side has none. -/
def sideParts (cs : List Char) : List (List Char) := if cs.isEmpty then [] else Domain.splitAt ':' cs

/-- The eight pieces of an address, of which a double colon stands for zeros. -/
def ipv6? (cs : List Char) : Option (List Nat) :=
  match (String.ofList cs).splitOn "::" with
  | [all] => do
    let ps ← pieces? true (Domain.splitAt ':' all.toList)
    if ps.length = 8 then some ps else none
  | [left, right] => do
    let ls ← pieces? false (sideParts left.toList)
    let rs ← pieces? true (sideParts right.toList)
    if ls.length + rs.length ≤ 7 then
      some (ls ++ List.replicate (8 - ls.length - rs.length) 0 ++ rs)
    else none
  | _ => none

/-- How many zeros start a list. -/
def zeros (ps : List Nat) : Nat := (ps.takeWhile (· = 0)).length

/-- Where the first longest run of zeros starts and how long it is. -/
def longestZeros (ps : List Nat) : Nat × Nat :=
  (List.range ps.length).foldl
    (fun best i =>
      let n := zeros (ps.drop i)
      if best.2 < n then (i, n) else best)
    (0, 0)

/-- The hexadecimal digits of a piece. -/
def pieceText (n : Nat) : String := String.ofList (Nat.toDigits 16 n)

/-- Pieces between colons. -/
def piecesText (ps : List Nat) : String := ":".intercalate (ps.map pieceText)

/-- The text of an address of 128 bits. -/
def ipv6Text (ps : List Nat) : String :=
  let (start, length) := longestZeros ps
  if length < 2 then piecesText ps
  else piecesText (ps.take start) ++ "::" ++ piecesText (ps.drop (start + length))

/-! ### Reading and writing -/

/-- The characters that no other host holds. -/
def isForbiddenOpaque (c : Char) : Bool :=
  ['\x00', '\t', '\n', '\r', ' ', '#', '/', ':', '<', '>', '?', '@', '[', '\\', ']', '^', '|'].contains c

/-- The address between brackets. -/
def bracketed? (cs : List Char) : Option Host :=
  if cs.getLast? = some ']' then (ipv6? cs.dropLast).map ipv6 else none

/-- The host of a special URL. -/
def parse? (cs : List Char) : Option Host :=
  match cs with
  | '[' :: rest => bracketed? rest
  | _ => do
    let text ← Utf8.decode? (Percent.decode (Utf8.encode (String.ofList cs)))
    let name ← Domain.ascii? text.toList
    if name.isEmpty then none
    else if endsInNumber name then (ipv4? name).map ipv4
    else some (domain (String.ofList name))

/-- The host of another URL, which may be empty. -/
def parseOpaque? (cs : List Char) : Option Host :=
  match cs with
  | '[' :: rest => bracketed? rest
  | _ =>
    if cs.any isForbiddenOpaque then none
    else some (domain (String.ofList (Percent.encode Percent.control cs)))

/-- The text of a host. -/
def text : Host → String
  | domain name => name
  | ipv4 n => ipv4Text n
  | ipv6 ps => "[" ++ ipv6Text ps ++ "]"

end Host

end CwlCompliance
