import CwlCompliance.Script.Glob
import CwlCompliance.Script.Tool.Directory

/-!
# Fields

What becomes of words once they are expanded: blanks that an expansion gave divide them, and those
that are open patterns stand for the files that they match.

## Main definitions

* `Piece` — what the parts of a word give.
* `fieldsOf` — the fields that pieces make up.
* `FileTree.matching` — the paths that a pattern matches.
-/

namespace CwlCompliance

namespace Script

/-- What the parts of a word give. -/
inductive Piece where
  /-- A character. -/
  | glyph (g : Glyph)
  /-- Nothing, but in quotes, which is a word all the same. -/
  | mark
  /-- The end of a field. -/
  | boundary
  deriving DecidableEq, Repr

namespace Piece

/-- The pieces that characters are which stand in the script. -/
def ofText (cs : List Char) (isQuoted : Bool) : List Piece :=
  if cs.isEmpty then [.mark] else cs.map fun c => .glyph { char := c, isQuoted }

/-- The pieces that a value is which an expansion gives. -/
def ofValue (value : String) (isQuoted : Bool) : List Piece :=
  (if isQuoted then [.mark] else []) ++
    value.toList.map fun c => .glyph { char := c, isQuoted, isExpanded := true }

/-- The piece as an expansion gives it. -/
def expanded : Piece → Piece
  | .glyph g => .glyph { g with isExpanded := true }
  | p => p

end Piece

/-- The characters of pieces as one word. -/
def textOf (ps : List Piece) : String :=
  String.ofList (ps.filterMap fun p =>
    match p with | .glyph g => some g.char | .boundary => some ' ' | .mark => none)

/-- The glyphs of pieces as one word. -/
def glyphsOf (ps : List Piece) : List Glyph :=
  ps.filterMap fun p =>
    match p with | .glyph g => some g | .boundary => some { char := ' ' } | .mark => none

/-- The fields of a word so far. -/
structure Fields where
  /-- Those that are complete, the last first. -/
  complete : List (List Glyph) := []
  /-- The one begun, its glyphs in reverse. -/
  begun : Option (List Glyph) := none
  /-- Whether a blank has ended a field just before. -/
  afterBlank : Bool := false

namespace Fields

/-- The field begun is complete. -/
def close (f : Fields) : Fields :=
  match f.begun with
  | some gs => { f with complete := gs.reverse :: f.complete, begun := none }
  | none => f

/-- One more piece.  Among the dividers, blanks do not make up empty fields, but others do. -/
def add (dividers : List Char) (f : Fields) : Piece → Fields
  | .mark => { f with begun := some (f.begun.getD []), afterBlank := false }
  | .boundary => { f.close with afterBlank := false }
  | .glyph g =>
    if g.isExpanded ∧ ¬ g.isQuoted ∧ g.char ∈ dividers then
      if g.char = ' ' ∨ g.char = '\t' ∨ g.char = '\n' then
        { f.close with afterBlank := f.afterBlank || f.begun.isSome }
      else if f.begun.isNone ∧ f.afterBlank then { f with afterBlank := false }
      else { { f with begun := some (f.begun.getD []) }.close with afterBlank := false }
    else { f with begun := some (g :: f.begun.getD []), afterBlank := false }

end Fields

/-- The fields that pieces make up. -/
def fieldsOf (dividers : List Char) (ps : List Piece) : List (List Glyph) :=
  (ps.foldl (Fields.add dividers) {}).close.complete.reverse

end Script

open Script (Glyph Glob)

namespace FileTree

/-- A path is divided at its slashes. -/
def divided : List Glyph → List (List Glyph)
  | [] => [[]]
  | g :: rest =>
    match divided rest with
    | [] => [[g]]
    | first :: more => if g.char = '/' then [] :: first :: more else (g :: first) :: more

/-- The paths that a pattern matches, from a directory on: each with what is written before it. -/
def matchingFrom (t : FileTree) : List (List Glyph) → List String → String → List String
  | [], _, written => [written]
  | part :: rest, directory, written =>
    let slash := if rest.isEmpty then "" else "/"
    let text := String.ofList (part.map (·.char))
    if part.isEmpty then matchingFrom t rest directory (written ++ slash)
    else if !(Glob.ofGlyphs part).isOpen then
      match t.walk directory [pathName text] with
      | .ok names =>
        if (t.get? names).isSome then matchingFrom t rest names (written ++ text ++ slash) else []
      | .error _ => []
    else
      (t.children directory).flatMap fun name =>
        let octets := Octets.ofText name
        let isHidden := octets.head? = some '.' && part.head?.map (·.char) ≠ some '.'
        if isHidden || !(Glob.ofGlyphs part).accepts octets then []
        else matchingFrom t rest (directory ++ [name]) (written ++ String.ofList octets ++ slash)
where
  /-- The name that octets write. -/
  pathName (octets : String) : String := Utf8.decodeLossy (Octets.toBytes octets.toList)

/-- The paths that a pattern matches, or the pattern itself if there are none. -/
def matching (t : FileTree) (pattern : List Glyph) : List String :=
  let text := String.ofList (pattern.map (·.char))
  if !(Glob.ofGlyphs pattern).isOpen then [text]
  else
    let found := t.matchingFrom (divided pattern) (if text.startsWith "/" then [] else t.workingDirectory) ""
    if found.isEmpty then [text] else found

end FileTree

end CwlCompliance
