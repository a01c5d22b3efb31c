/-!
# Bytes as text

Reading bytes as UTF-8: strictly, where one ill-formed sequence spoils the whole, and leniently,
where each ill-formed sequence becomes one replacement character.

## Main definitions

* `Utf8.Step` — what the first bytes of a sequence are.
* `Utf8.decode?`, `Utf8.decodeLossy` — strict and lenient reading.
-/

namespace CwlCompliance.Utf8

/-- What stands at the start of a sequence of bytes. -/
inductive Step where
  /-- A character written by so many bytes. -/
  | character (c : Char) (width : Nat)
  /-- So many bytes that begin no character, taken together as far as they could have begun one. -/
  | illFormed (width : Nat)

/-- The bytes that may follow a leading byte: the smallest and the largest second byte, and the
number of further bytes.  A byte that leads nothing has none. -/
def followers? (b : Nat) : Option (Nat × Nat × Nat) :=
  if 0xC2 ≤ b ∧ b ≤ 0xDF then some (0x80, 0xBF, 1)
  else if b = 0xE0 then some (0xA0, 0xBF, 2)
  else if b = 0xED then some (0x80, 0x9F, 2)
  else if 0xE1 ≤ b ∧ b ≤ 0xEF then some (0x80, 0xBF, 2)
  else if b = 0xF0 then some (0x90, 0xBF, 3)
  else if 0xF1 ≤ b ∧ b ≤ 0xF3 then some (0x80, 0xBF, 3)
  else if b = 0xF4 then some (0x80, 0x8F, 3)
  else none

/-- The significant bits of a leading byte with so many followers. -/
def leadBits (b followers : Nat) : Nat :=
  match followers with
  | 1 => b - 0xC0
  | 2 => b - 0xE0
  | _ => b - 0xF0

/-- Further bytes of a character: the second one within its own range, the others within the
common one. -/
def continued (low high : Nat) : Nat → Nat → Nat → List UInt8 → Step
  | 0, code, width, _ => .character (Char.ofNat code) width
  | n + 1, code, width, b :: rest =>
    if low ≤ b.toNat ∧ b.toNat ≤ high then
      continued 0x80 0xBF n (code * 64 + (b.toNat - 0x80)) (width + 1) rest
    else .illFormed width
  | _ + 1, _, width, [] => .illFormed width

/-- What stands at the start of these bytes. -/
def step : List UInt8 → Step
  | [] => .illFormed 0
  | b :: rest =>
    if b.toNat < 0x80 then .character (Char.ofNat b.toNat) 1
    else
      match followers? b.toNat with
      | none => .illFormed 1
      | some (low, high, n) => continued low high n (leadBits b.toNat n) 1 rest

/-- The characters written by bytes, or nothing if some of them write none. -/
def decodeChars? : Nat → List UInt8 → Option (List Char)
  | _, [] => some []
  | 0, _ => none
  | n + 1, bytes =>
    match step bytes with
    | .character c width => (decodeChars? n (bytes.drop width)).map (c :: ·)
    | .illFormed _ => none

/-- The text written by bytes, or nothing if some of them write no character. -/
def decode? (bytes : List UInt8) : Option String :=
  (decodeChars? bytes.length bytes).map String.ofList

/-- The characters written by bytes, a replacement character for each ill-formed sequence. -/
def lossyChars : Nat → List UInt8 → List Char
  | _, [] => []
  | 0, _ => []
  | n + 1, bytes =>
    match step bytes with
    | .character c width => c :: lossyChars n (bytes.drop width)
    | .illFormed width => '\ufffd' :: lossyChars n (bytes.drop (max width 1))

/-- The text written by bytes, a replacement character for each ill-formed sequence. -/
def decodeLossy (bytes : List UInt8) : String :=
  String.ofList (lossyChars bytes.length bytes)

/-- The bytes that write a text. -/
def encode (s : String) : List UInt8 := s.toUTF8.data.toList

end CwlCompliance.Utf8
