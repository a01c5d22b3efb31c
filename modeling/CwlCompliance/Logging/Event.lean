import CwlCompliance.Logging.Level
import CwlCompliance.Text.Quoted

/-!
# Events

An event says what a run does.  It is logged on a line of its own with the time, its level, its
message and its fields.

## Main definitions

* `Origin` — the parts of the program that events come from.
* `Event` — what a run does.
* `Event.line` — how it is logged.
* `Filter.admitsEvent` — whether it is.
-/

namespace CwlCompliance

/-- The parts of the program that events come from. -/
inductive Origin where
  /-- The commands. -/
  | commands
  /-- The retrieval of documents. -/
  | retrieval
  /-- Packages and what is selected from them. -/
  | package
  /-- Validations. -/
  | validation
  /-- The structural validator. -/
  | structural
  deriving DecidableEq, Repr

/-- The name by which a filter selects a part of the program. -/
def Origin.target : Origin → String
  | commands => "ap_validator::cli::commands"
  | retrieval => "ap_validator::core::app_package::fetch"
  | package => "ap_validator::core::app_package"
  | validation => "ap_validator::core::app_package::runner"
  | structural => "ap_validator::core::app_package::structural"

/-- The value of a field. -/
inductive FieldValue where
  /-- A text, which is logged in quotes. -/
  | quoted (text : String)
  /-- A value that is logged as it is. -/
  | plain (text : String)
  deriving DecidableEq, Repr

namespace FieldValue

/-- The field value that a number is. -/
def number (n : Nat) : FieldValue := plain (toString n)

/-- How a value is logged. -/
def text : FieldValue → String
  | quoted s => Text.quoted s
  | plain s => s

end FieldValue

/-- What a run does. -/
structure Event where
  /-- The part of the program it comes from. -/
  origin : Origin
  /-- How grave it is. -/
  level : Level
  /-- What is done. -/
  message : String
  /-- The details. -/
  fields : List (String × FieldValue) := []
  deriving DecidableEq, Repr

namespace Event

/-- How a character of a message is logged: what could control a terminal is written by its
number. -/
def escape (c : Char) : List Char :=
  let n := c.toNat
  if [0x07, 0x08, 0x0C, 0x1B, 0x7F].contains n then
    ['\\', 'x', Text.hexDigit (n / 16), Text.hexDigit (n % 16)]
  else if 0x80 ≤ n ∧ n < 0xA0 then
    ['\\', 'u', '\x7b', Text.hexDigit (n / 16), Text.hexDigit (n % 16), '\x7d']
  else [c]

/-- The name of a level as it is logged, five characters wide. -/
def levelName (l : Level) : String :=
  let name := l.name.toUpper
  String.ofList (List.replicate (5 - name.length) ' ') ++ name

/-- The fields as they are logged. -/
def fieldText (e : Event) : String :=
  String.join (e.fields.map fun (name, value) => " " ++ name ++ "=" ++ value.text)

/-- The line of an event that happened at a time. -/
def line (time : String) (e : Event) : String :=
  time ++ " " ++ levelName e.level ++ " " ++ String.ofList (e.message.toList.flatMap escape) ++
    e.fieldText ++ "\n"

end Event

/-- Whether an event is logged. -/
def Filter.admitsEvent (f : Filter) (e : Event) : Bool :=
  f.admits e.origin.target ("message" :: e.fields.map Prod.fst) e.level

end CwlCompliance
