import CwlCompliance.Yaml.Error
import CwlCompliance.Yaml.Character
import CwlCompliance.Yaml.Token
import CwlCompliance.Yaml.Token.Quoted

/-!
# Plain scalars

A scalar without quotes.  It ends at a colon before a gap, at a comment, at a document marker, at
a line that is not indented enough, and inside brackets at a bracket or a comma.

## Main definitions

* `Plain.read` — the scalar at the cursor.
-/

namespace CwlCompliance.Yaml.Plain

open Character

/-- Whether the colon at the cursor is one that a plain scalar in brackets cannot hold. -/
def badColon (c : Cursor) : Bool :=
  c.sees 0 ':' && c.seesClass 1 (fun x => isFlowIndicator x || x = '?')

/-- Whether the cursor stands at the end of a plain scalar's run. -/
def atEnd (inFlow : Bool) (c : Cursor) : Bool :=
  c.seesGap 0 || (c.sees 0 ':' && c.seesGap 1) || (inFlow && c.seesClass 0 isFlowIndicator)

/-- The characters of one run without gaps. -/
def readRun (inFlow : Bool) : Nat → Cursor → String → Except Error (String × Cursor)
  | 0, c, out => .ok (out, c)
  | n + 1, c, out =>
    match c.head with
    | none => .ok (out, c)
    | some x =>
      if inFlow && badColon c then .error .badPlainScalar
      else if atEnd inFlow c then .ok (out, c)
      else readRun inFlow n (c.advance 1) (out.push x)

/-- Whether a tab stands in the indentation of a line at or after the first of these characters. -/
def tabInIndentation (indent : Int) : Nat → Cursor → Bool → Bool
  | 0, _, _ => false
  | n + 1, c, broken =>
    match c.head with
    | none => false
    | some x =>
      if isBlank x then
        (broken && x = '\t' && (c.column : Int) < indent) ||
          tabInIndentation indent n (c.advance 1) broken
      else if isBreak x then tabInIndentation indent n c.takeBreak.2 true
      else false

/-- The scalar's text so far with the gap before the next run pending, up to its end.  The flag
says that the last gap held a line break. -/
def readContent (inFlow : Bool) (indent : Int) :
    Nat → Cursor → String → String → Bool → Except Error (String × Cursor × Bool)
  | 0, c, out, _, broken => .ok (out, c, broken)
  | n + 1, c, out, pending, broken => do
    if c.atDocumentMarker || c.sees 0 '#' then return (out, c, broken)
    let (run, c) ← readRun inFlow (c.size + 1) c ""
    let (out, pending, broken) :=
      if run.isEmpty then (out, pending, broken) else (out ++ pending ++ run, "", false)
    if !(c.seesClass 0 isBlank || c.seesClass 0 isBreak) then return (out, c, broken)
    if tabInIndentation indent (c.size + 1) c broken then throw .badPlainScalar
    let (gap, c) := Quoted.readGap (c.size + 1) c ⟨"", "", "", false⟩
    if !inFlow && (c.column : Int) < indent then return (out, c, broken || gap.broken)
    readContent inFlow indent n c out (pending ++ gap.text) (broken || gap.broken)

/-- The plain scalar at the cursor under a parent at an indentation, the place after it, and
whether that is on a later line than the scalar's last character. -/
def read (inFlow : Bool) (parent : Int) (c : Cursor) : Except Error (String × Cursor × Bool) :=
  readContent inFlow (parent + 1) (c.size + 1) c "" "" false

end CwlCompliance.Yaml.Plain
