import CwlCompliance.Logging.Pattern.Reader

/-!
# Fields of directives

A directive can ask for fields, and for a field with a value: a truth value, a number, or a pattern
that the value matches.

## Main definitions

* `Field.value?` — the value that is asked for.
* `Field.isValid` — whether it can be.
-/

namespace CwlCompliance.Field

/-- The value that a field of a directive asks for: what stands between its first two equals signs,
or after the only one. -/
def value? (field : String) : Option String := (field.splitOn "=")[1]?

/-- The characters after a sign, if there is one. -/
def unsigned : List Char → List Char
  | '+' :: rest => rest
  | '-' :: rest => rest
  | cs => cs

/-- Whether characters are the exponent of a number, which may be missing. -/
def isExponent : List Char → Bool
  | [] => true
  | c :: rest => (c = 'e' || c = 'E') && !(unsigned rest).isEmpty && (unsigned rest).all Char.isDigit

/-- Whether a text writes a number, perhaps none or one that is not finite. -/
def isNumber (s : String) : Bool :=
  let cs := unsigned s.toList
  let whole := cs.takeWhile Char.isDigit
  match cs.drop whole.length with
  | '.' :: rest =>
    let part := rest.takeWhile Char.isDigit
    !(whole.isEmpty && part.isEmpty) && isExponent (rest.drop part.length)
  | rest =>
    (!whole.isEmpty && isExponent rest) ||
      ["inf", "infinity", "nan"].any fun name => Text.sameIgnoringCase name (String.ofList cs)

/-- Whether a value can be asked for: truth values are patterns too. -/
def isValue (s : String) : Bool := isNumber s || (Pattern.ofText? s).any Pattern.isMatchable

/-- Whether a directive can ask for a field. -/
def isValid (field : String) : Bool := (value? field).all isValue

end CwlCompliance.Field
