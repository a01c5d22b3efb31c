/-!
# JSON

JSON values and their indented text, in which reports are written.

## Main definitions

* `Json.Value` — values; the fields of an object have an order.
* `Json.quoted` — a string in quotes.
* `Json.Value.pretty` — the text of a value, two spaces deeper for each level.
-/

namespace CwlCompliance.Json

/-- A JSON value. -/
inductive Value where
  /-- The null value. -/
  | null
  /-- A truth value. -/
  | bool (b : Bool)
  /-- A whole number. -/
  | integer (i : Int)
  /-- A string. -/
  | string (s : String)
  /-- A list of values. -/
  | array (items : List Value)
  /-- Named values in order. -/
  | object (fields : List (String × Value))

/-! ### Strings -/

/-- A hexadecimal digit. -/
def hexDigit (n : Nat) : Char := if n < 10 then Char.ofNat (48 + n) else Char.ofNat (87 + n)

/-- How a character is written inside quotes: the quote, the backslash and the control characters
are escaped, by a letter where they have one. -/
def escape (c : Char) : List Char :=
  if c = '\x22' then ['\\', '\x22']
  else if c = '\\' then ['\\', '\\']
  else if c = '\x08' then ['\\', 'b']
  else if c = '\t' then ['\\', 't']
  else if c = '\n' then ['\\', 'n']
  else if c = '\x0c' then ['\\', 'f']
  else if c = '\r' then ['\\', 'r']
  else if c.toNat < 0x20 then
    ['\\', 'u', '0', '0', hexDigit (c.toNat / 16), hexDigit (c.toNat % 16)]
  else [c]

/-- A string in quotes. -/
def quoted (s : String) : String :=
  String.ofList ('\x22' :: s.toList.flatMap escape ++ ['\x22'])

/-! ### Values -/

/-- The start of a line at a depth. -/
def newline (depth : Nat) : String := String.ofList ('\n' :: List.replicate (2 * depth) ' ')

namespace Value

mutual

/-- The text of a value at a depth. -/
def prettyAt (depth : Nat) : Value → String
  | .null => "null"
  | .bool b => if b then "true" else "false"
  | .integer i => toString i
  | .string s => quoted s
  | .array [] => "[]"
  | .array (v :: rest) =>
    "[" ++ newline (depth + 1) ++ prettyAt (depth + 1) v ++ prettyItems (depth + 1) rest ++
      newline depth ++ "]"
  | .object [] => "\x7b\x7d"
  | .object ((k, v) :: rest) =>
    "\x7b" ++ newline (depth + 1) ++ quoted k ++ ": " ++ prettyAt (depth + 1) v ++
      prettyFields (depth + 1) rest ++ newline depth ++ "\x7d"

/-- The texts of further items, each after a comma. -/
def prettyItems (depth : Nat) : List Value → String
  | [] => ""
  | v :: rest => "," ++ newline depth ++ prettyAt depth v ++ prettyItems depth rest

/-- The texts of further fields, each after a comma. -/
def prettyFields (depth : Nat) : List (String × Value) → String
  | [] => ""
  | (k, v) :: rest =>
    "," ++ newline depth ++ quoted k ++ ": " ++ prettyAt depth v ++ prettyFields depth rest

end

/-- The text of a value. -/
def pretty (v : Value) : String := prettyAt 0 v

/-- A string or null. -/
def ofText? : Option String → Value
  | none => .null
  | some s => .string s

end Value

end CwlCompliance.Json
