import CwlCompliance.Text.Utf8

/-!
# Percent encoding

In a URL a byte may be written as a percent sign and two hexadecimal digits.  Which characters have
to be written so depends on where they stand.

## Main definitions

* `Percent.fragment`, `Percent.path`, `Percent.userinfo`, `Percent.query`, `Percent.specialQuery`,
  `Percent.control` — the characters to encode.
* `Percent.encode`, `Percent.decode` — writing and reading.
-/

namespace CwlCompliance.Percent

/-- The characters that are encoded everywhere: controls and all that is not ASCII. -/
def control (c : Char) : Bool := c.toNat < 0x20 || 0x7F ≤ c.toNat

/-- The characters that are encoded in a fragment. -/
def fragment (c : Char) : Bool := control c || [' ', '\x22', '<', '>', '\x60'].contains c

/-- The characters that are encoded in a path. -/
def path (c : Char) : Bool := fragment c || ['#', '?', '\x7b', '\x7d'].contains c

/-- The characters that are encoded in a user name or password. -/
def userinfo (c : Char) : Bool :=
  path c || ['/', ':', ';', '=', '@', '[', '\\', ']', '^', '|'].contains c

/-- The characters that are encoded in a query. -/
def query (c : Char) : Bool := control c || [' ', '\x22', '#', '<', '>'].contains c

/-- The characters that are encoded in a query of a special URL. -/
def specialQuery (c : Char) : Bool := query c || c = '\x27'

/-- A hexadecimal digit in capitals. -/
def digit (n : Nat) : Char := if n < 10 then Char.ofNat (48 + n) else Char.ofNat (55 + n)

/-- A byte, encoded. -/
def encodeByte (b : UInt8) : List Char := ['%', digit (b.toNat / 16), digit (b.toNat % 16)]

/-- Characters, those of a set encoded. -/
def encode (set : Char → Bool) (cs : List Char) : List Char :=
  cs.flatMap fun c =>
    if set c then (Utf8.encode (String.singleton c)).flatMap encodeByte else [c]

/-- The value of a byte as a hexadecimal digit. -/
def value? (b : UInt8) : Option UInt8 :=
  if 48 ≤ b ∧ b ≤ 57 then some (b - 48)
  else if 97 ≤ b ∧ b ≤ 102 then some (b - 87)
  else if 65 ≤ b ∧ b ≤ 70 then some (b - 55)
  else none

/-- Bytes with what is encoded in them decoded; a percent sign that encodes nothing stays. -/
def decode : List UInt8 → List UInt8
  | [] => []
  | [a] => [a]
  | [a, b] => [a, b]
  | a :: b :: c :: rest =>
    if a = 37 then
      match value? b, value? c with
      | some x, some y => (x * 16 + y) :: decode rest
      | _, _ => a :: decode (b :: c :: rest)
    else a :: decode (b :: c :: rest)

end CwlCompliance.Percent
