import CwlCompliance.Yaml.Error
import CwlCompliance.Yaml.Character
import CwlCompliance.Yaml.Value

/-!
# What a scalar stands for

A plain scalar is a null, a truth value, a number or a text according to how it is spelled; a core
tag may ask for one of these.

## Main definitions

* `Scalar.integer?`, `Scalar.double?` — the spellings of numbers.
* `Scalar.plainValue` — what a plain scalar stands for.
* `Scalar.taggedValue` — what a scalar under a core tag stands for.
-/

namespace CwlCompliance.Yaml.Scalar

open Character

/-- The spellings of null. -/
def isNullText (s : String) : Bool := s = "null" || s = "Null" || s = "NULL" || s = "~"

/-- The truth value that a text spells. -/
def bool? (s : String) : Option Bool :=
  if s = "true" ∨ s = "True" ∨ s = "TRUE" then some true
  else if s = "false" ∨ s = "False" ∨ s = "FALSE" then some false
  else none

/-- Whether a character is a sign. -/
def isSign (c : Char) : Bool := c = '+' || c = '-'

/-- The number that digits of a base write; at least one digit is needed. -/
def natural? (base : Nat) (cs : List Char) : Option Nat :=
  if cs.isEmpty then none
  else
    cs.foldl
      (fun n c => do
        let n ← n
        let d ← hexValue? c
        if d < base then some (n * base + d) else none)
      (some 0)

/-- The number behind one of the prefixes for bases sixteen, eight and two. -/
def basedNatural? : List Char → Option Nat
  | '0' :: 'x' :: rest => natural? 16 rest
  | '0' :: 'o' :: rest => natural? 8 rest
  | '0' :: 'b' :: rest => natural? 2 rest
  | _ => none

/-- Digits with a zero before others are no number. -/
def isPadded (cs : List Char) : Bool :=
  let ds := if cs.head?.any isSign then cs.drop 1 else cs
  1 < ds.length && ds.head? == some '0' && ds.all Char.isDigit

/-- The integer that a text spells: an optional sign, then decimal digits or a prefixed number. -/
def integer? (s : String) : Option Int :=
  let cs := s.toList
  let (negative, ds) :=
    match cs with
    | '+' :: rest => (false, rest)
    | '-' :: rest => (true, rest)
    | _ => (false, cs)
  let magnitude := (basedNatural? ds).or (if isPadded cs then none else natural? 10 ds)
  magnitude.map fun n => if negative then -(n : Int) else n

/-- The decimal that a text spells: digits with at most one point among them, and perhaps an
exponent.  The answer is the digits and the power of ten. -/
def decimal? (cs : List Char) : Option (Nat × Int) := do
  let whole := cs.takeWhile Char.isDigit
  let rest := cs.dropWhile Char.isDigit
  let (fraction, rest) :=
    match rest with
    | '.' :: rest => (rest.takeWhile Char.isDigit, rest.dropWhile Char.isDigit)
    | _ => ([], rest)
  let digits ← natural? 10 (whole ++ fraction)
  let exponent ←
    match rest with
    | [] => some (0 : Int)
    | e :: rest =>
      if e = 'e' ∨ e = 'E' then
        match rest with
        | '-' :: ds => (natural? 10 ds).map fun n => -(n : Int)
        | '+' :: ds => (natural? 10 ds).map fun n => (n : Int)
        | ds => (natural? 10 ds).map fun n => (n : Int)
      else none
  return (digits, exponent - fraction.length)

/-- The double that a text spells: an infinity, not-a-number, or a decimal in range. -/
def double? (s : String) : Option Double :=
  let cs := s.toList
  let unsigned := if cs.head? == some '+' then cs.drop 1 else cs
  let name := String.ofList unsigned
  if name = ".inf" ∨ name = ".Inf" ∨ name = ".INF" then some (.infinite false)
  else if s = "-.inf" ∨ s = "-.Inf" ∨ s = "-.INF" then some (.infinite true)
  else if s = ".nan" ∨ s = ".NaN" ∨ s = ".NAN" then some .nan
  else
    let negative := cs.head? == some '-'
    let magnitude := if negative then cs.drop 1 else unsigned
    (decimal? magnitude).bind fun (digits, exponent) =>
      let d := Double.ofDecimal negative digits exponent
      if d.isFinite then some d else none

/-- Whether an integer fits into a word of so many bits, with a sign or without one. -/
def fitsWord (bits : Nat) (i : Int) : Bool :=
  if i < 0 then i.natAbs ≤ Nat.pow 2 (bits - 1) else i.natAbs < Nat.pow 2 bits

/-- An integer as a value: one that fits neither a signed nor an unsigned word of 64 bits but does
fit one of 128 bits is refused, and a larger one is none. -/
def integerValue? (i : Int) : Except Error (Option Value) :=
  if fitsWord 64 i then .ok (some (.number (.integer i)))
  else if fitsWord 128 i then .error .integerOutOfRange
  else .ok none

/-- What a plain scalar stands for. -/
def plainValue (s : String) : Except Error Value := do
  if s.isEmpty || isNullText s then return .null
  if let some b := bool? s then return .bool b
  if let some i := integer? s then
    if let some v ← integerValue? i then return v
  if !isPadded s.toList then
    if let some d := double? s then return .number (.double d)
  return .string s

/-- The tag of a core type. -/
def coreTag (name : String) : String := "tag:yaml.org,2002:" ++ name

/-- What a scalar under a tag that is not local stands for.  Four core tags ask for a spelling;
under any other the scalar is a text. -/
def taggedValue (tag s : String) : Except Error Value := do
  if tag = coreTag "bool" then
    match bool? s with
    | some b => return .bool b
    | none => throw .tagMismatch
  else if tag = coreTag "int" then
    match integer? s with
    | some i =>
      match ← integerValue? i with
      | some v => return v
      | none => throw .tagMismatch
    | none => throw .tagMismatch
  else if tag = coreTag "float" then
    match double? s with
    | some d => return .number (.double d)
    | none => throw .tagMismatch
  else if tag = coreTag "null" then
    if isNullText s then return .null else throw .tagMismatch
  else return .string s

end CwlCompliance.Yaml.Scalar
