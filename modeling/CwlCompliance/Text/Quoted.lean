import CwlCompliance.Text.Visible

/-!
# Quoted text

A text in double quotes on one line, as details and log fields show it: what cannot be seen is
written by its number.

## Main definitions

* `escape` — how a character is written inside quotes.
* `quoted` — a text in quotes.
-/

namespace CwlCompliance.Text

/-- A hexadecimal digit. -/
def hexDigit (n : Nat) : Char := if n < 10 then Char.ofNat (48 + n) else Char.ofNat (87 + n)

/-- The hexadecimal digits of a number without leading zeros, followed by `rest`. -/
def hexDigits : Nat → Nat → List Char → List Char
  | 0, _, rest => rest
  | fuel + 1, n, rest =>
    if n < 16 then hexDigit n :: rest else hexDigits fuel (n / 16) (hexDigit (n % 16) :: rest)

/-- How a character is written inside quotes. -/
def escape (c : Char) : List Char :=
  if c = '\x00' then ['\\', '0']
  else if c = '\t' then ['\\', 't']
  else if c = '\n' then ['\\', 'n']
  else if c = '\r' then ['\\', 'r']
  else if c = '\x22' then ['\\', '\x22']
  else if c = '\\' then ['\\', '\\']
  else if isVisible c then [c]
  else '\\' :: 'u' :: '\x7b' :: hexDigits 6 c.toNat ['\x7d']

/-- A text in quotes. -/
def quoted (s : String) : String :=
  String.ofList ('\x22' :: s.toList.flatMap escape ++ ['\x22'])

end CwlCompliance.Text
