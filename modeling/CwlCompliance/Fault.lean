/-!
# Faults

A fault is what stops a command or blocks a package: its category, a code, a message, named
details, and hints.  Details are kept sorted by name, so that two faults with the same details are
equal whatever the order in which the details were given.

## Main definitions

* `Category`, `Severity` — the kinds of fault and how grave each is.
* `Fault` — a fault, with `withCode`, `withDetail` and `withHint` to complete it.
-/

namespace CwlCompliance

/-- The kinds of fault. -/
inductive Category where
  /-- The document does not have the shape of a package. -/
  | parse
  /-- The document could not be retrieved. -/
  | fetch
  /-- The package uses what platforms do not support. -/
  | unsupportedConstruct
  /-- The structural validator could not be used. -/
  | validator
  /-- The settings are missing or wrong. -/
  | config
  /-- A file could not be read or written. -/
  | io
  /-- Anything else. -/
  | internal
  deriving DecidableEq, Repr

/-- All categories. -/
def Category.all : List Category :=
  [.parse, .fetch, .unsupportedConstruct, .validator, .config, .io, .internal]

/-- The name under which a category is shown. -/
def Category.name : Category → String
  | .parse => "ParseError"
  | .fetch => "FetchError"
  | .unsupportedConstruct => "UnsupportedConstruct"
  | .validator => "ValidatorError"
  | .config => "ConfigError"
  | .io => "IoError"
  | .internal => "InternalError"

/-- How grave a fault is. -/
inductive Severity where
  /-- The package could not be loaded or the tool not be configured. -/
  | fatal
  /-- The package loaded but failed a blocking check. -/
  | error
  deriving DecidableEq, Repr

/-- The name under which a severity is shown. -/
def Severity.name : Severity → String
  | .fatal => "FATAL"
  | .error => "ERROR"

/-- How grave the faults of a category are. -/
def Category.severity : Category → Severity
  | .unsupportedConstruct | .validator => .error
  | .parse | .fetch | .config | .io | .internal => .fatal

/-- The code of a fault: one that was given, or one made up for the occasion from a unique text. -/
inductive Code where
  /-- A code that was given. -/
  | given (text : String)
  /-- A code made up for the occasion. -/
  | madeUp
  deriving DecidableEq, Repr

/-- The text of a code, given the unique text for codes made up. -/
def Code.text (unique : String) : Code → String
  | .given text => text
  | .madeUp => "ERR-" ++ unique

/-- Named details, sorted by name, each name once. -/
abbrev Details := List (String × String)

namespace Details

/-- The details with one more; a name that is there already gets the new value. -/
def insert (name value : String) : Details → Details
  | [] => [(name, value)]
  | (n, v) :: rest =>
    if name < n then (name, value) :: (n, v) :: rest
    else if name = n then (name, value) :: rest
    else (n, v) :: insert name value rest

/-- The value of a detail. -/
def get? (d : Details) (name : String) : Option String := d.lookup name

end Details

/-- What stops a command or blocks a package. -/
structure Fault where
  /-- Its kind. -/
  category : Category
  /-- Its code. -/
  code : Code := .madeUp
  /-- What happened. -/
  message : String
  /-- Named details. -/
  details : Details := []
  /-- What can be done about it. -/
  hints : List String := []
  /-- The text of the failure it wraps, if it wraps one. -/
  cause : Option String := none
  deriving DecidableEq, Repr

namespace Fault

/-- How grave the fault is. -/
def severity (f : Fault) : Severity := f.category.severity

/-- The fault with a code. -/
def withCode (code : String) (f : Fault) : Fault := { f with code := .given code }

/-- The fault with one more detail. -/
def withDetail (name value : String) (f : Fault) : Fault :=
  { f with details := f.details.insert name value }

/-- The fault with one more hint. -/
def withHint (hint : String) (f : Fault) : Fault := { f with hints := f.hints ++ [hint] }

/-- The fault that a failure of the file system is. -/
def ofIo (failure : String) : Fault :=
  { category := .io, code := .given "IO_ERROR", message := failure
    hints := ["Check file permissions and paths"], cause := some failure }

end Fault

end CwlCompliance
