/-!
# Shell patterns

Patterns of names and of texts: a star for any characters, a question mark for any one, and brackets
for one of some.  A character that is quoted stands for itself.

## Main definitions

* `Glyph` — a character with what quoting and expansion made of it.
* `Glob`, `Glob.ofGlyphs` — a pattern, and how it is read.
* `Glob.accepts` — whether a pattern matches a text.
-/

namespace CwlCompliance.Script

/-- A character of a word after expansion. -/
structure Glyph where
  /-- The character. -/
  char : Char
  /-- Whether it is quoted. -/
  isQuoted : Bool := false
  /-- Whether an expansion gave it, so that it can divide words. -/
  isExpanded : Bool := false
  deriving DecidableEq, Repr

/-- Characters, one of which is meant. -/
structure Members where
  /-- Whether all others are meant. -/
  isNegated : Bool := false
  /-- The characters from one to another. -/
  ranges : List (Char × Char) := []
  deriving DecidableEq, Repr

/-- Whether a character is meant. -/
def Members.has (m : Members) (c : Char) : Bool :=
  (m.ranges.any fun (low, high) => low ≤ c && c ≤ high) != m.isNegated

/-- The characters of a named class. -/
def namedRanges? (name : String) : Option (List (Char × Char)) :=
  [("alpha", [('A', 'Z'), ('a', 'z')]), ("digit", [('0', '9')]),
    ("alnum", [('0', '9'), ('A', 'Z'), ('a', 'z')]), ("upper", [('A', 'Z')]), ("lower", [('a', 'z')]),
    ("space", [('\t', '\r'), (' ', ' ')]), ("blank", [('\t', '\t'), (' ', ' ')]),
    ("punct", [('!', '/'), (':', '@'), ('[', '\x60'), ('\x7b', '~')]),
    ("print", [(' ', '~')]), ("graph", [('!', '~')]),
    ("cntrl", [('\x00', '\x1f'), ('\x7f', '\x7f')]),
    ("xdigit", [('0', '9'), ('A', 'F'), ('a', 'f')])].lookup name

/-- A part of a pattern. -/
inductive GlobItem where
  /-- A character. -/
  | literal (c : Char)
  /-- Any character. -/
  | one
  /-- Any characters. -/
  | many
  /-- One of some characters. -/
  | members (m : Members)
  deriving DecidableEq, Repr

/-- A pattern: its parts in order. -/
abbrev Glob := List GlobItem

namespace Glob

/-- The glyphs of the name of a class, and what follows its end. -/
def className? : List Glyph → Option (List Char × List Glyph)
  | ⟨':', _, _⟩ :: ⟨']', _, _⟩ :: rest => some ([], rest)
  | g :: rest =>
    if g.char.isLower then (className? rest).map fun (name, rest) => (g.char :: name, rest) else none
  | [] => none

/-- The characters in brackets up to the closing one, and what follows it. -/
def ranges? : Nat → Bool → List Glyph → Option (List (Char × Char) × List Glyph)
  | 0, _, _ => none
  | _ + 1, _, [] => none
  | n + 1, isFirst, g :: rest =>
    if g.char = ']' ∧ ¬ g.isQuoted ∧ ¬ isFirst then some ([], rest)
    else
      let named := if g.char = '[' ∧ (rest.head?.map (·.char)) = some ':' then className? (rest.drop 1) else none
      match named with
      | some (name, rest) =>
        match namedRanges? (String.ofList name) with
        | some ranges => (ranges? n false rest).map fun (more, rest) => (ranges ++ more, rest)
        | none => none
      | none =>
        match rest with
        | ⟨'-', false, _⟩ :: high :: after =>
          if high.char = ']' ∧ ¬ high.isQuoted then
            (ranges? n false rest).map fun (more, rest) => ((g.char, g.char) :: more, rest)
          else (ranges? n false after).map fun (more, rest) => ((g.char, high.char) :: more, rest)
        | _ => (ranges? n false rest).map fun (more, rest) => ((g.char, g.char) :: more, rest)

/-- The brackets whose opening one is read already, and what follows them. -/
def members? (gs : List Glyph) : Option (Members × List Glyph) :=
  match gs with
  | ⟨'!', false, _⟩ :: rest | ⟨'^', false, _⟩ :: rest =>
    (ranges? (rest.length + 1) true rest).map fun (ranges, rest) => ({ isNegated := true, ranges }, rest)
  | _ => (ranges? (gs.length + 1) true gs).map fun (ranges, rest) => ({ ranges }, rest)

/-- The pattern that glyphs write; `n` bounds their number. -/
def ofGlyphsFrom : Nat → List Glyph → Glob
  | 0, _ => []
  | _, [] => []
  | n + 1, g :: rest =>
    if g.isQuoted then .literal g.char :: ofGlyphsFrom n rest
    else if g.char = '*' then .many :: ofGlyphsFrom n rest
    else if g.char = '?' then .one :: ofGlyphsFrom n rest
    else if g.char = '[' then
      match members? rest with
      | some (m, after) => .members m :: ofGlyphsFrom n after
      | none => .literal g.char :: ofGlyphsFrom n rest
    else if g.char = '\\' ∧ g.isExpanded then
      match rest with
      | h :: after => .literal h.char :: ofGlyphsFrom n after
      | [] => [.literal '\\']
    else .literal g.char :: ofGlyphsFrom n rest

/-- The pattern that glyphs write. -/
def ofGlyphs (gs : List Glyph) : Glob := ofGlyphsFrom gs.length gs

/-- Whether a pattern can match anything but one text. -/
def isOpen (g : Glob) : Bool := g.any fun i => match i with | .literal _ => false | _ => true

/-- Whether a pattern matches a text. -/
def accepts : Glob → List Char → Bool
  | [], cs => cs.isEmpty
  | .many :: rest, [] => accepts rest []
  | .many :: rest, c :: cs => accepts rest (c :: cs) || accepts (.many :: rest) cs
  | _ :: _, [] => false
  | .literal l :: rest, c :: cs => l = c && accepts rest cs
  | .one :: rest, _ :: cs => accepts rest cs
  | .members m :: rest, c :: cs => m.has c && accepts rest cs
  termination_by g cs => (g.length, cs.length)

/-- A text without a start that a pattern matches. -/
def dropStart (g : Glob) (longest : Bool) (cs : List Char) : List Char :=
  let lengths := List.range (cs.length + 1)
  match (if longest then lengths.reverse else lengths).find? fun n => g.accepts (cs.take n) with
  | some n => cs.drop n
  | none => cs

/-- A text without an end that a pattern matches. -/
def dropEnd (g : Glob) (longest : Bool) (cs : List Char) : List Char :=
  let lengths := List.range (cs.length + 1)
  match (if longest then lengths else lengths.reverse).find? fun n => g.accepts (cs.drop n) with
  | some n => cs.take n
  | none => cs

end Glob

end CwlCompliance.Script
