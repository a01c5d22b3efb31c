import CwlCompliance.Text.Blank

/-!
# Formats of reports

## Main definitions

* `ReportFormat`, `ReportFormat.ofText` — the formats and how they are named.
-/

namespace CwlCompliance

/-- The formats in which a report can be written. -/
inductive ReportFormat where
  /-- A summary to read, by rule. -/
  | text
  /-- A JSON object for other programs. -/
  | json
  deriving DecidableEq, Repr

namespace ReportFormat

/-- All formats. -/
def all : List ReportFormat := [text, json]

/-- The name of a format. -/
def name : ReportFormat → String
  | text => "text"
  | json => "json"

/-- The format with exactly this name. -/
def ofName? (s : String) : Option ReportFormat := all.find? fun f => f.name == s

/-- The format that a text names; case and surrounding white space do not matter. -/
def ofText? (s : String) : Option ReportFormat :=
  all.find? fun f => Text.sameIgnoringCase f.name (Text.trim s)

/-- The message for a text that names no format. -/
def unknownMessage (s : String) : String :=
  "invalid report format '" ++ s ++ "'; supported values are text, json"

/-- The format that a text names, or the message that it names none. -/
def ofText (s : String) : Except String ReportFormat :=
  match ofText? s with
  | some f => .ok f
  | none => .error (unknownMessage s)

end ReportFormat

end CwlCompliance
