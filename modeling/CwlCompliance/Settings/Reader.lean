import CwlCompliance.Settings.Basic
import CwlCompliance.Toml.Reader

/-!
# Reading settings

Settings are written in TOML, in four sections.  A section is a table, or a list of its fields in
their order; what a section does not know is passed over.

## Main definitions

* `Section` — a section, with `Section.get?` for its fields.
* `Settings.ofToml?` — the settings that a text writes.
* `Settings.load` — the settings for a run.
-/

namespace CwlCompliance

open Toml (Value)

/-- A section of settings. -/
inductive Section where
  /-- A table of fields. -/
  | table (entries : List (String × Value))
  /-- The fields in their order. -/
  | list (items : List Value)

namespace Section

/-- The section that a value is.  A date is a table of nothing that a section knows. -/
def of? : Value → Option Section
  | .table entries => some (table entries)
  | .array items => some (list items)
  | .datetime _ => some (table [])
  | _ => none

/-- A field by its name, or by its position in a list. -/
def get? (s : Section) (position : Nat) (name : String) : Option Value :=
  match s with
  | table entries => entries.lookup name
  | list items => items[position]?

/-- A field that has a default. -/
def optional {α : Type} (s : Section) (position : Nat) (name : String) (read : Value → Option α)
    (default : α) : Option α :=
  match s.get? position name with
  | none => some default
  | some v => read v

/-- A field that may be left out of a table but not of a list. -/
def perhaps {α : Type} (s : Section) (position : Nat) (name : String) (read : Value → Option α) :
    Option (Option α) :=
  match s.get? position name with
  | some v => (read v).map some
  | none => match s with
    | table _ => some none
    | list _ => none

end Section

namespace Settings

/-- A text. -/
def text? : Value → Option String
  | .string s => some s
  | _ => none

/-- A truth value. -/
def bool? : Value → Option Bool
  | .boolean b => some b
  | _ => none

/-- A list of texts. -/
def texts? : Value → Option (List String)
  | .array items => items.mapM text?
  | _ => none

/-- Whether a value is a collection of nothing. -/
def isNothing : Value → Bool
  | .array [] => true
  | .table [] => true
  | _ => false

/-- A format: its name, or a table with its name and nothing under it. -/
def format? : Value → Option ReportFormat
  | .string s => ReportFormat.ofName? s
  | .table [(name, v)] => if isNothing v then ReportFormat.ofName? name else none
  | _ => none

/-- The section about the structural validator. -/
def structural? (v : Value) : Option StructuralSettings := do
  let s ← Section.of? v
  let standard : StructuralSettings := {}
  let enabled ← s.optional 0 "enabled" bool? standard.enabled
  let program ← s.optional 1 "command" text? standard.validator.program
  let arguments ← s.optional 2 "args" texts? standard.validator.arguments
  return { enabled, validator := { program, arguments } }

/-- The section about checks, which is the entry point. -/
def entryPoint? (v : Value) : Option (Option String) := do
  (← Section.of? v).perhaps 0 "entry_point" text?

/-- The section about reports, which is their format. -/
def reportFormat? (v : Value) : Option ReportFormat := do
  (← Section.of? v).optional 0 "format" format? .text

/-- The section about logs. -/
def logging? (v : Value) : Option LoggingSection := do
  let s ← Section.of? v
  let directory ← s.perhaps 0 "log_dir" text?
  let level ← s.perhaps 1 "default_level" text?
  let toFile ← s.perhaps 2 "enable_file" bool?
  let console ← s.perhaps 3 "console_output" text?
  return { directory, level, toFile, console }

/-- The settings that a table holds. -/
def ofEntries? (entries : List (String × Value)) : Option Settings := do
  let s := Section.table entries
  let structural ← s.optional 0 "structural" structural? {}
  let entryPoint ← s.optional 1 "checks" entryPoint? none
  let format ← s.optional 2 "report" reportFormat? .text
  let logging ← s.optional 3 "logging" logging? {}
  return { structural, entryPoint, format, logging }

/-- The settings that a text writes. -/
def ofToml? (text : String) : Option Settings := do ofEntries? (← Toml.read? text)

/-- The settings in the file at a path. -/
def ofFile (files : FileTree) (path : String) : Except SettingsError Settings :=
  match files.readText path with
  | .error reason => .error (.unreadable path reason)
  | .ok text =>
    match ofToml? text with
    | some s => .ok s
    | none => .error (.malformed path)

/-- The name of the file that holds settings unless another one is named. -/
def fileName : String := "ap-validator.toml"

/-- The settings before variables of the environment: of the named file, which has to be there, or
of the usual file in a directory, which need not. -/
def inFiles (files : FileTree) (named : Option String) (directory : String) :
    Except SettingsError Settings :=
  match named with
  | some path => if files.has path then ofFile files path else .error (.noFile path)
  | none =>
    let path := Path.join directory fileName
    if files.has path then ofFile files path else .ok {}

/-- The settings for a run, before they are checked. -/
def load (files : FileTree) (e : Variables) (named : Option String) (directory : String) :
    Except SettingsError Settings := do
  return (← inFiles files named directory).override e

end Settings

end CwlCompliance
