/-!
# Ranges of code points

Sets of characters as the standard's tables give them: ranges of code points, written as
hexadecimal numbers in lines of text.

## Main definitions

* `CodePoint.ofHex` — the number that hexadecimal digits write.
* `CodeRanges`, `CodeRanges.ofText` — ranges and how they are written.
* `CodeRanges.has` — whether a code point is in one of them.
-/

namespace CwlCompliance

/-! ### Code points -/

namespace CodePoint

/-- The value of a hexadecimal digit in capitals. -/
def digit (c : Char) : Nat := if c.isDigit then c.toNat - 48 else c.toNat - 55

/-- The number that hexadecimal digits write. -/
def ofHex (s : String) : Nat := s.toList.foldl (fun n c => n * 16 + digit c) 0

/-- The entries of a table: in each line they stand between spaces. -/
def entries (lines : List String) : List String := lines.flatMap fun line => line.splitOn " "

end CodePoint

/-! ### Ranges -/

/-- Ranges of code points, each with its first and its last one. -/
structure CodeRanges where
  /-- The ranges. -/
  list : List (Nat × Nat)
  deriving DecidableEq, Repr

namespace CodeRanges

/-- The range that an entry writes: two numbers with a hyphen between them, or one. -/
def range (entry : String) : Nat × Nat :=
  match (entry.splitOn "-").map CodePoint.ofHex with
  | low :: high :: _ => (low, high)
  | [n] => (n, n)
  | [] => (0, 0)

/-- The ranges that lines of entries write. -/
def ofText (lines : List String) : CodeRanges := ⟨(CodePoint.entries lines).map range⟩

/-- Whether a code point is in one of the ranges. -/
def has (r : CodeRanges) (n : Nat) : Bool := r.list.any fun (low, high) => low ≤ n && n ≤ high

end CodeRanges

end CwlCompliance
