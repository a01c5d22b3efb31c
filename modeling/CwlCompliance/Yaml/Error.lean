/-!
# What can be wrong with a YAML text

Every way in which a text fails to be one YAML document, one constructor per cause.

## Main definitions

* `Yaml.Error` — the causes.
* `Yaml.Error.message` — the wording of each.
-/

namespace CwlCompliance.Yaml

/-- Why a text is not a YAML document. -/
inductive Error where
  /-- A control character or another character that YAML does not admit. -/
  | forbiddenCharacter
  /-- A character that starts no token. -/
  | strayCharacter
  /-- A key on one line without its colon. -/
  | missingColon
  /-- A list entry, key or value where the indentation does not admit one. -/
  | misplacedIndicator
  /-- A directive that is unknown or malformed. -/
  | badDirective
  /-- A document written for another version of YAML. -/
  | unsupportedVersion
  /-- A directive given twice. -/
  | repeatedDirective
  /-- An anchor or alias without a proper name. -/
  | badAnchor
  /-- A malformed tag. -/
  | badTag
  /-- A tag whose handle no directive declares. -/
  | undeclaredHandle
  /-- A quoted scalar that does not end, or holds a document marker. -/
  | unclosedQuote
  /-- An escape that a double-quoted scalar does not know. -/
  | badEscape
  /-- A malformed heading or indentation of a block scalar. -/
  | badBlockScalar
  /-- A colon or tab that a plain scalar cannot hold there. -/
  | badPlainScalar
  /-- Tokens that form no document. -/
  | unexpectedToken
  /-- More than one document. -/
  | severalDocuments
  /-- An alias without an anchor before it. -/
  | undefinedAlias
  /-- Collections nested more deeply than the limit. -/
  | tooDeep
  /-- Aliases repeated more often than the limit. -/
  | tooManyAliases
  /-- Two equal keys in one mapping. -/
  | duplicateKey
  /-- A scalar that does not have the form its tag asks for. -/
  | tagMismatch
  /-- An integer that fits no supported width. -/
  | integerOutOfRange
  deriving DecidableEq, Repr

/-- The wording of a cause. -/
def Error.message : Error → String
  | .forbiddenCharacter => "control characters are not allowed"
  | .strayCharacter => "found character that cannot start any token"
  | .missingColon => "could not find expected ':'"
  | .misplacedIndicator => "block entries are not allowed in this context"
  | .badDirective => "malformed directive"
  | .unsupportedVersion => "found incompatible YAML document"
  | .repeatedDirective => "found duplicate directive"
  | .badAnchor => "did not find expected alphabetic or numeric character"
  | .badTag => "malformed tag"
  | .undeclaredHandle => "found undefined tag handle"
  | .unclosedQuote => "found unexpected end of a quoted scalar"
  | .badEscape => "found unknown escape character"
  | .badBlockScalar => "malformed block scalar"
  | .badPlainScalar => "malformed plain scalar"
  | .unexpectedToken => "did not find expected node content"
  | .severalDocuments => "more than one document"
  | .undefinedAlias => "unknown anchor"
  | .tooDeep => "recursion limit exceeded"
  | .tooManyAliases => "repetition limit exceeded"
  | .duplicateKey => "duplicate entry"
  | .tagMismatch => "value does not have the form of its tag"
  | .integerOutOfRange => "integer out of range"

end CwlCompliance.Yaml
