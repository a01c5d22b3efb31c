import CwlCompliance.Text.Utf8

/-!
# Octets

Bytes as characters: each byte is the character with its number.  Shells and the tools that they call
see text so, whatever encoding it is in.

## Main definitions

* `Octets.ofBytes`, `Octets.toBytes` — bytes as characters, and back.
* `Octets.ofText` — the bytes of a text as characters.
-/

namespace CwlCompliance.Octets

/-- A byte as a character. -/
def ofByte (b : UInt8) : Char := Char.ofNat b.toNat

/-- Bytes as characters. -/
def ofBytes (bytes : List UInt8) : List Char := bytes.map ofByte

/-- The bytes that characters stand for. -/
def toBytes (cs : List Char) : List UInt8 := cs.map fun c => UInt8.ofNat c.toNat

/-- The bytes of a text as characters. -/
def ofText (s : String) : List Char := ofBytes (Utf8.encode s)

/-- The text whose characters are the bytes of another. -/
def text (s : String) : String := String.ofList (ofText s)

end CwlCompliance.Octets
