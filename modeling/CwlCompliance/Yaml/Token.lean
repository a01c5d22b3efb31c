/-!
# Tokens of a YAML text

The tokens that the lexical rules cut a text into.  The starts and ends of block collections are
tokens of their own: they are what indentation says.

## Main definitions

* `Token` — the tokens.
-/

namespace CwlCompliance.Yaml

/-- A tag or a part of one.  Escapes can write bytes in it that are no text. -/
abbrev TagBytes := List UInt8

/-- A token of a YAML text. -/
inductive Token where
  /-- The directive that names a version of YAML. -/
  | versionDirective (major minor : Nat)
  /-- The directive that declares a tag handle. -/
  | tagDirective (handle : String) (start : TagBytes)
  /-- The marker before a document. -/
  | documentStart
  /-- The marker after a document. -/
  | documentEnd
  /-- The start of a list written one entry a line. -/
  | blockSequenceStart
  /-- The start of a mapping written one key a line. -/
  | blockMappingStart
  /-- The end of a collection written by indentation. -/
  | blockEnd
  /-- An opening square bracket. -/
  | flowSequenceStart
  /-- A closing square bracket. -/
  | flowSequenceEnd
  /-- An opening curly bracket. -/
  | flowMappingStart
  /-- A closing curly bracket. -/
  | flowMappingEnd
  /-- The hyphen before a list entry. -/
  | blockEntry
  /-- The comma between entries in brackets. -/
  | flowEntry
  /-- The start of a key, written or implied. -/
  | key
  /-- The colon before a value. -/
  | value
  /-- The use of an anchored node. -/
  | aliasTo (name : String)
  /-- The name given to the next node. -/
  | anchor (name : String)
  /-- The tag given to the next node. -/
  | tag (handle : String) (suffix : TagBytes)
  /-- A scalar, and whether it was written without quotes or block heading. -/
  | scalar (text : String) (plain : Bool)
  deriving DecidableEq, Repr

/-- The text that a run of line breaks stands for where lines are folded: one break is a space,
and of several the first is dropped.  A separator is kept as it is. -/
def foldedBreaks (first more : String) : String :=
  if first.startsWith "\n" then (if more.isEmpty then " " else more) else first ++ more

end CwlCompliance.Yaml
