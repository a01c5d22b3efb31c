import CwlCompliance.Text.Utf8
import CwlCompliance.Yaml.Error
import CwlCompliance.Yaml.Character
import CwlCompliance.Yaml.Token

/-!
# Anchors, tags and directives

The tokens that say something about a node or a document without being content themselves.

## Main definitions

* `Property.readName` — the name of an anchor or alias.
* `Property.readTag` — a tag.
* `Property.readDirective` — a directive line.
-/

namespace CwlCompliance.Yaml.Property

open Character

/-- What may follow the name of an anchor or alias directly. -/
def endsName (c : Cursor) : Bool :=
  c.seesGap 0 || c.seesClass 0 fun x =>
    x = '?' || x = ':' || x = ',' || x = ']' || x = '\x7d' || x = '%' || x = '@' || x = '\x60'

/-- The name after the sign of an anchor or alias. -/
def readName (c : Cursor) : Except Error (String × Cursor) :=
  let c := c.advance 1
  let name := c.rest.takeWhile isWord
  let c := c.advance name.length
  if name.isEmpty || !endsName c then .error .badAnchor else .ok (String.ofList name, c)

/-- The characters that may stand in a tag; brackets and commas only between angle brackets and in
directives. -/
def isTagCharacter (verbatim : Bool) (x : Char) : Bool :=
  isWord x || x = ';' || x = '/' || x = '?' || x = ':' || x = '@' || x = '&' || x = '=' ||
    x = '+' || x = '$' || x = '.' || x = '%' || x = '!' || x = '~' || x = '*' || x = '\x27' ||
    x = '(' || x = ')' || (verbatim && (x = ',' || x = '[' || x = ']'))

/-- The byte that a percent sign and two hexadecimal digits write. -/
def escapedByte? (c : Cursor) : Option UInt8 := do
  guard (c.sees 0 '%')
  let high ← (c.peek 1).bind hexValue?
  let low ← (c.peek 2).bind hexValue?
  return UInt8.ofNat (high * 16 + low)

/-- How many bytes write the character that a byte begins. -/
def sequenceLength? (b : UInt8) : Option Nat :=
  if b.toNat < 0x80 then some 1
  else if b.toNat < 0xC0 then none
  else if b.toNat < 0xE0 then some 2
  else if b.toNat < 0xF0 then some 3
  else if b.toNat < 0xF8 then some 4
  else none

/-- The escaped bytes of one character, and the place after them. -/
def readEscapes (c : Cursor) : Except Error (TagBytes × Cursor) := do
  let some lead := escapedByte? c | throw .badTag
  let some n := sequenceLength? lead | throw .badTag
  let bytes := (List.range n).map fun i => escapedByte? (c.advance (3 * i))
  let mut text : TagBytes := []
  for b in bytes, i in List.range n do
    match b with
    | none => throw .badTag
    | some b =>
      if i ≠ 0 && (b.toNat < 0x80 || 0xBF < b.toNat) then throw .badTag
      text := text ++ [b]
  return (text, c.advance (3 * n))

/-- The bytes of a tag, with its escapes resolved. -/
def readTagText (verbatim : Bool) : Nat → Cursor → TagBytes → Except Error (TagBytes × Cursor)
  | 0, c, out => .ok (out, c)
  | n + 1, c, out =>
    match c.head with
    | none => .ok (out, c)
    | some x =>
      if x = '%' then do
        let (text, c) ← readEscapes c
        readTagText verbatim n c (out ++ text)
      else if isTagCharacter verbatim x then readTagText verbatim n (c.advance 1) (out ++ Utf8.encode (String.singleton x))
      else .ok (out, c)

/-- A tag handle at an exclamation mark: the mark, word characters, and a second mark if one
follows. -/
def readHandle (c : Cursor) : String × Cursor :=
  let word := (c.rest.drop 1).takeWhile isWord
  let c := c.advance (1 + word.length)
  let handle := "!" ++ String.ofList word
  if c.sees 0 '!' then (handle ++ "!", c.advance 1) else (handle, c)

/-- A tag, as its handle and the rest of it.  Between angle brackets, and for the lone exclamation
mark, the handle is empty. -/
def readTag (inFlow : Bool) (c : Cursor) : Except Error (Token × Cursor) := do
  let fuel := c.size + 1
  let (tag, c) ←
    if c.sees 1 '<' then do
      let (text, c) ← readTagText true fuel (c.advance 2) []
      if text.isEmpty || !c.sees 0 '>' then throw .badTag
      pure (Token.tag "" text, c.advance 1)
    else do
      let (handle, c) := readHandle c
      if handle.length ≥ 2 && handle.endsWith "!" then
        let (text, c) ← readTagText false fuel c []
        if text.isEmpty then throw .badTag
        pure (Token.tag handle text, c)
      else
        let (text, c) ← readTagText false fuel c (Utf8.encode (handle.drop 1).toString)
        pure (if text.isEmpty then Token.tag "" (Utf8.encode "!") else Token.tag "!" text, c)
  if c.seesGap 0 || (inFlow && c.sees 0 ',') then return (tag, c)
  throw .badTag

/-- A number of a version, of at most nine digits. -/
def readVersionNumber (c : Cursor) : Except Error (Nat × Cursor) :=
  let digits := c.rest.takeWhile Char.isDigit
  if digits.isEmpty || 9 < digits.length then .error .badDirective
  else .ok (digits.foldl (fun n d => n * 10 + (d.toNat - 48)) 0, c.advance digits.length)

/-- The version after the name of its directive. -/
def readVersion (c : Cursor) : Except Error (Token × Cursor) := do
  let (major, c) ← readVersionNumber (c.advanceWhile isBlank)
  if !c.sees 0 '.' then throw .badDirective
  let (minor, c) ← readVersionNumber (c.advance 1)
  return (.versionDirective major minor, c)

/-- The handle and its meaning after the name of a tag directive. -/
def readTagDeclaration (c : Cursor) : Except Error (Token × Cursor) := do
  let c := c.advanceWhile isBlank
  if !c.sees 0 '!' then throw .badDirective
  let (handle, c) := readHandle c
  if handle ≠ "!" && !(handle.length ≥ 2 && handle.endsWith "!") then throw .badDirective
  if !c.seesClass 0 isBlank then throw .badDirective
  let c := c.advanceWhile isBlank
  let (text, c) ← readTagText true (c.size + 1) c []
  if text.isEmpty || !c.seesGap 0 then throw .badDirective
  return (.tagDirective handle text, c)

/-- A directive line, and the place after it. -/
def readDirective (c : Cursor) : Except Error (Token × Cursor) := do
  let c := c.advance 1
  let name := String.ofList (c.rest.takeWhile isWord)
  let c := c.advanceWhile isWord
  if name.isEmpty || !c.seesGap 0 then throw .badDirective
  let (token, c) ←
    if name = "YAML" then readVersion c
    else if name = "TAG" then readTagDeclaration c
    else throw .badDirective
  let c := c.advanceComment
  if !c.atLineEnd then throw .badDirective
  return (token, c.takeBreak.2)

end CwlCompliance.Yaml.Property
