import CwlCompliance.Decimal.Shortest

/-!
# YAML values

The values that YAML documents write, with mappings in the order of the text and local tags kept.

## Main definitions

* `Number`, `Value` — the values.
* `Value.same` — when two keys of a mapping are the same.
* `Value.asString?`, `Value.asEntries?`, … — a value seen through its tags.
* `Value.get?` — the value under a text key.
-/

namespace CwlCompliance.Yaml

/-- A number: an integer, or a double. -/
inductive Number where
  /-- An integer. -/
  | integer (i : Int)
  /-- A double. -/
  | double (d : Double)
  deriving DecidableEq, Repr

namespace Number

/-- Numbers are the same when they are of one kind and equal in value. -/
def same : Number → Number → Bool
  | .integer i, .integer j => i = j
  | .double d, .double e => d.same e
  | _, _ => false

/-- The decimal digits of a natural number. -/
def digits (n : Nat) : String := String.ofList (Nat.toDigits 10 n)

/-- So many zeros. -/
def zeros (n : Nat) : String := String.ofList (List.replicate n '0')

/-- A positive decimal `c * 10 ^ k`, written out while its point lies at most sixteen places to the
right of the first digit or four to its left, and with an exponent otherwise. -/
def decimalText (c : Nat) (k : Int) : String :=
  let ds := digits c
  let n := ds.length
  let point : Int := n + k
  if 0 ≤ k ∧ point ≤ 16 then ds ++ zeros k.toNat ++ ".0"
  else if 0 < point ∧ point ≤ 16 then
    (ds.take point.toNat).toString ++ "." ++ (ds.drop point.toNat).toString
  else if -5 < point ∧ point ≤ 0 then "0." ++ zeros (-point).toNat ++ ds
  else
    let e := point - 1
    let mantissa :=
      if n = 1 then ds else (ds.take 1).toString ++ "." ++ (ds.drop 1).toString
    mantissa ++ "e" ++ (if e < 0 then "-" else "") ++ digits e.natAbs

/-- The text of a number. -/
def text : Number → String
  | .integer i => (if i < 0 then "-" else "") ++ digits i.natAbs
  | .double .nan => ".nan"
  | .double (.infinite negative) => if negative then "-.inf" else ".inf"
  | .double (.finite negative m e) =>
    let magnitude :=
      if m = 0 then "0.0"
      else
        let (c, k) := Double.shortest m e
        decimalText c k
    (if negative then "-" else "") ++ magnitude

/-- The text of a double written out in full, whatever its magnitude. -/
def positionalText : Double → String
  | .nan => "NaN"
  | .infinite negative => if negative then "-inf" else "inf"
  | .finite negative m e =>
    let magnitude :=
      if m = 0 then "0.0"
      else
        let (c, k) := Double.shortest m e
        let ds := digits c
        let point : Int := ds.length + k
        if 0 ≤ k then ds ++ zeros k.toNat ++ ".0"
        else if 0 < point then
          (ds.take point.toNat).toString ++ "." ++ (ds.drop point.toNat).toString
        else "0." ++ zeros (-point).toNat ++ ds
    (if negative then "-" else "") ++ magnitude

end Number

/-- A YAML value. -/
inductive Value where
  /-- Nothing. -/
  | null
  /-- A truth value. -/
  | bool (b : Bool)
  /-- A number. -/
  | number (n : Number)
  /-- A text. -/
  | string (s : String)
  /-- A list. -/
  | sequence (items : List Value)
  /-- A mapping, its entries in the order of the text. -/
  | mapping (entries : List (Value × Value))
  /-- A value under a local tag, which is named without its exclamation mark. -/
  | tagged (tag : String) (value : Value)
  deriving Repr, Inhabited

/-- The entries of a mapping. -/
abbrev Entries := List (Value × Value)

namespace Value

mutual

/-- Whether two values are the same as keys: mappings without regard to the order of their
entries, numbers by kind and value. -/
def same : Value → Value → Bool
  | .null, .null => true
  | .bool a, .bool b => a == b
  | .number a, .number b => a.same b
  | .string a, .string b => a == b
  | .sequence xs, .sequence ys => sameItems xs ys
  | .mapping xs, .mapping ys => xs.length == ys.length && sameEntries xs ys
  | .tagged s x, .tagged t y => s == t && same x y
  | _, _ => false

/-- Whether two lists hold the same values. -/
def sameItems : List Value → List Value → Bool
  | [], [] => true
  | x :: xs, y :: ys => same x y && sameItems xs ys
  | _, _ => false

/-- Whether each entry of the first mapping is also one of the second. -/
def sameEntries : List (Value × Value) → List (Value × Value) → Bool
  | [], _ => true
  | e :: rest, ys => ys.any (fun y => sameEntry e y) && sameEntries rest ys

/-- Whether two entries have the same key and the same value. -/
def sameEntry : Value × Value → Value × Value → Bool
  | (k, v), (k', v') => same k k' && same v v'

end

/-- The value under any number of tags. -/
def untag : Value → Value
  | .tagged _ v => untag v
  | v => v

/-- The text that a value is, seen through tags. -/
def asString? (v : Value) : Option String :=
  match v.untag with
  | .string s => some s
  | _ => none

/-- The entries of the mapping that a value is, seen through tags. -/
def asEntries? (v : Value) : Option Entries :=
  match v.untag with
  | .mapping entries => some entries
  | _ => none

/-- The items of the list that a value is, seen through tags. -/
def asItems? (v : Value) : Option (List Value) :=
  match v.untag with
  | .sequence items => some items
  | _ => none

/-- Whether a value is null, seen through tags. -/
def isNull (v : Value) : Bool :=
  match v.untag with
  | .null => true
  | _ => false

/-- The text of an untagged text, number or truth value. -/
def scalarText? : Value → Option String
  | .string s => some s
  | .number n => some n.text
  | .bool b => some (if b then "true" else "false")
  | _ => none

/-- Whether a value is the untagged text `name`. -/
def isKey (name : String) : Value → Bool
  | .string s => s == name
  | _ => false

end Value

namespace Entries

/-- The value under a text key. -/
def get? (entries : Entries) (name : String) : Option Value :=
  (entries.find? fun e => e.1.isKey name).map (·.2)

end Entries

end CwlCompliance.Yaml
