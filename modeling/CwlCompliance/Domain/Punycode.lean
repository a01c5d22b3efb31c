/-!
# Punycode

The ASCII form of a label: its ASCII characters, then digits that say which others are inserted and
where.

## Main definitions

* `Punycode.encode` — the ASCII form of a label.
* `Punycode.decode?` — the label of an ASCII form.
-/

namespace CwlCompliance.Punycode

/-! ### Numbers -/

/-- The digit for a number below 36. -/
def digit (n : Nat) : Char := if n < 26 then Char.ofNat (97 + n) else Char.ofNat (22 + n)

/-- The number that a digit stands for. -/
def value? (c : Char) : Option Nat :=
  if c.isDigit then some (c.toNat - 22)
  else if c.isLower then some (c.toNat - 97)
  else if c.isUpper then some (c.toNat - 65)
  else none

/-- The threshold of a digit at position `k` under a bias. -/
def threshold (k bias : Nat) : Nat := if k ≤ bias then 1 else if bias + 26 ≤ k then 26 else k - bias

/-- How often a number is divided until it is small, and what is left of it. -/
def reduce : Nat → Nat → Nat → Nat × Nat
  | 0, k, delta => (k, delta)
  | fuel + 1, k, delta => if 455 < delta then reduce fuel (k + 36) (delta / 35) else (k, delta)

/-- The bias after a number among so many characters. -/
def adapt (delta count : Nat) (first : Bool) : Nat :=
  let delta := if first then delta / 700 else delta / 2
  let (k, delta) := reduce 64 0 (delta + delta / count)
  k + 36 * delta / (delta + 38)

/-- The digits of a number. -/
def digits (bias : Nat) : Nat → Nat → Nat → List Char
  | 0, _, _ => []
  | fuel + 1, k, q =>
    let t := threshold k bias
    if q < t then [digit q] else digit (t + (q - t) % (36 - t)) :: digits bias fuel (k + 36) ((q - t) / (36 - t))

/-! ### Encoding -/

/-- What encoding has come to. -/
structure Progress where
  /-- The number that is not yet written. -/
  delta : Nat
  /-- The bias. -/
  bias : Nat
  /-- How many characters are written. -/
  handled : Nat
  /-- The digits. -/
  out : List Char

/-- The progress after all places of the character numbered `n` in a label. -/
def encodePlaces (n : Nat) (basic : Nat) (label : List Char) (p : Progress) : Progress :=
  label.foldl
    (fun p c =>
      if c.toNat < n then { p with delta := p.delta + 1 }
      else if c.toNat = n then
        { delta := 0
          bias := adapt p.delta (p.handled + 1) (p.handled = basic)
          handled := p.handled + 1
          out := p.out ++ digits p.bias 64 36 p.delta }
      else p)
    p

/-- The different characters of a label outside ASCII, in order. -/
def extended (label : List Char) : List Nat :=
  ((label.map Char.toNat).filter (128 ≤ ·)).eraseDups.mergeSort

/-- The ASCII form of a label, without its mark. -/
def encode (label : List Char) : List Char :=
  let basic := label.filter fun c => c.toNat < 128
  let start : Progress := ⟨0, 72, basic.length, basic ++ (if basic.isEmpty then [] else ['-'])⟩
  let (p, _) := (extended label).foldl
    (fun (p, n) m =>
      let p := encodePlaces m basic.length label { p with delta := p.delta + (m - n) * (p.handled + 1) }
      ({ p with delta := p.delta + 1 }, m + 1))
    (start, 128)
  p.out

/-! ### Decoding -/

/-- The number, if it fits into 32 bits. -/
def word? (n : Nat) : Option Nat := if n < Nat.pow 2 32 then some n else none

/-- The number that starts a list of digits, added to a total, and the digits after it. -/
def number? (bias : Nat) : Nat → Nat → Nat → List Char → Option (Nat × List Char)
  | _, _, _, [] => none
  | k, weight, total, c :: rest => do
    let d ← value? c
    let t := threshold k bias
    let total ← word? (total + d * weight)
    if d < t then some (total, rest)
    else number? bias (k + 36) (← word? (weight * (36 - t))) total rest

/-- The characters that digits insert into a label. -/
def insertions : Nat → Nat → Nat → Nat → List Char → List Char → Option (List Char)
  | _, _, _, _, label, [] => some label
  | 0, _, _, _, _, _ => none
  | fuel + 1, n, i, bias, label, c :: rest => do
    let (total, rest) ← number? bias 36 1 i (c :: rest)
    let count := label.length + 1
    let n := n + total / count
    let place := total % count
    if !n.isValidChar then none
    else
      insertions fuel n (place + 1) (adapt (total - i) count (i = 0))
        (label.take place ++ Char.ofNat n :: label.drop place) rest

/-- The ASCII characters and the digits of an ASCII form, between which the last hyphen stands unless
it stands first. -/
def cut (cs : List Char) : List Char × List Char :=
  let basic := ((cs.reverse.dropWhile (· ≠ '-')).drop 1).reverse
  if basic.isEmpty then ([], cs) else (basic, (cs.reverse.takeWhile (· ≠ '-')).reverse)

/-- The label that an ASCII form stands for. -/
def decode? (cs : List Char) : Option (List Char) :=
  let (basic, rest) := cut cs
  insertions cs.length 128 0 72 basic rest

end CwlCompliance.Punycode
