/-!
# White space

Which characters count as white space when a value is trimmed or tested for being blank: the
characters with the Unicode property White_Space, which is more than the four that
`Char.isWhitespace` knows.

## Main definitions

* `isSpace` — the property on characters.
* `trim` — a text without the white space at its two ends.
* `isBlank` — a text that holds nothing but white space.
-/

namespace CwlCompliance.Text

/-- The characters with the Unicode property White_Space. -/
def isSpace (c : Char) : Bool :=
  let n := c.toNat
  (9 ≤ n && n ≤ 13) || n = 32 || n = 0x85 || n = 0xA0 || n = 0x1680 ||
    (0x2000 ≤ n && n ≤ 0x200A) || n = 0x2028 || n = 0x2029 || n = 0x202F || n = 0x205F ||
    n = 0x3000

/-- The characters of a text without leading and trailing white space. -/
def trimChars (cs : List Char) : List Char :=
  ((cs.dropWhile isSpace).reverse.dropWhile isSpace).reverse

/-- A text without leading and trailing white space. -/
def trim (s : String) : String := String.ofList (trimChars s.toList)

/-- A text without trailing white space. -/
def trimEnd (s : String) : String :=
  String.ofList (s.toList.reverse.dropWhile isSpace).reverse

/-- A text is blank when it holds nothing but white space. -/
def isBlank (s : String) : Bool := s.toList.all isSpace

/-- Whether two texts agree once ASCII letters are lowered. -/
def sameIgnoringCase (a b : String) : Bool :=
  a.toList.map Char.toLower == b.toList.map Char.toLower

end CwlCompliance.Text
