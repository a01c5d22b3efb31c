import CwlCompliance.Source.FileTree
import CwlCompliance.Text.Octets

/-!
# Tools

The tools that scripts call: functions from arguments, input and files to output and an exit code.
Arguments and streams are made of octets.

## Main definitions

* `Call`, `Streams`, `Tool` — what a tool is called with, what it gives back, and the tools.
* `Options` — the options among arguments.
* `Call.sources` — what a tool reads that names files or reads its input.
-/

namespace CwlCompliance.Script

/-- What a tool is called with. -/
structure Call where
  /-- Its arguments. -/
  arguments : List String
  /-- What it can read as its input. -/
  input : List Char := []
  /-- Whether its input is a file. -/
  isFile : Bool := false
  /-- The files. -/
  files : FileTree := {}

/-- What a tool gives back. -/
structure Streams where
  /-- What it prints. -/
  stdout : List Char := []
  /-- What it prints as errors. -/
  stderr : List Char := []
  /-- Its exit code. -/
  code : Nat := 0
  /-- What is left of its input, if it has read from it. -/
  left? : Option (List Char) := none
  /-- The files after it, if it has changed them. -/
  files? : Option FileTree := none

/-- A tool. -/
abbrev Tool := Call → Streams

namespace Streams

/-- What one tool gives back, and then another. -/
def andThen (a b : Streams) : Streams :=
  { stdout := a.stdout ++ b.stdout
    stderr := a.stderr ++ b.stderr
    code := if b.code = 0 then a.code else b.code
    left? := b.left?.or a.left?
    files? := b.files?.or a.files? }

/-- A failure with a message. -/
def failure (message : String) (code : Nat) : Streams := { stderr := (message ++ "\n").toList, code }

/-- A text is printed. -/
def printed (s : String) : Streams := { stdout := s.toList }

end Streams

/-- The path of a file, of which octets are given. -/
def pathOf (octets : String) : String := Utf8.decodeLossy (Octets.toBytes octets.toList)

/-! ### Lines -/

/-- The lines of a text without their ends; what follows the last end is a line if there is any. -/
def linesOf : List Char → List (List Char)
  | [] => []
  | c :: rest =>
    if c = '\n' then [] :: linesOf rest
    else
      match linesOf rest with
      | [] => [[c]]
      | l :: ls => (c :: l) :: ls

/-- Lines with their ends. -/
def ofLines (ls : List (List Char)) : List Char := ls.flatMap (· ++ ['\n'])

/-- The lines of a text with their ends; the last one may have none. -/
def rawLines : List Char → List (List Char)
  | [] => []
  | c :: rest =>
    if c = '\n' then ['\n'] :: rawLines rest
    else
      match rawLines rest with
      | [] => [[c]]
      | l :: ls => (c :: l) :: ls

/-- The words between blanks. -/
def wordsBetween (isBlank : Char → Bool) (cs : List Char) : List (List Char) :=
  let (words, last) := cs.foldr
    (fun c (words, word) =>
      if isBlank c then (if word.isEmpty then (words, []) else (word :: words, []))
      else (words, c :: word))
    ([], [])
  if last.isEmpty then words else last :: words

/-! ### Options -/

/-- The options among arguments, and the other arguments. -/
structure Options where
  /-- The options in order, with their values. -/
  given : List (Char × String) := []
  /-- The other arguments. -/
  operands : List String := []
  /-- An option that there is not, or that lacks its value. -/
  unknown? : Option String := none

/-- The options of a tool. -/
structure OptionTable where
  /-- Those without a value. -/
  plain : List Char := []
  /-- Those with a value. -/
  valued : List Char := []
  /-- The long names of options. -/
  long : List (String × Char) := []
  /-- Whether options can follow other arguments. -/
  anywhere : Bool := true

namespace OptionTable

/-- The options in one argument: those without a value, and the last one, which may lack its value. -/
def letters (t : OptionTable) : List Char → List (Char × String) × Option Char × Option String
  | [] => ([], none, none)
  | c :: rest =>
    if t.valued.contains c then
      if rest.isEmpty then ([], some c, none) else ([(c, String.ofList rest)], none, none)
    else if t.plain.contains c then
      let (more, last, unknown) := letters t rest
      ((c, "") :: more, last, unknown)
    else ([], none, some (String.singleton c))

/-- The options among arguments. -/
def read (t : OptionTable) : List String → Options
  | [] => {}
  | "--" :: rest => { operands := rest }
  | a :: rest =>
    if a.startsWith "--" then
      let name := ((a.drop 2).takeWhile (· ≠ '=')).toString
      let value? := if name.length + 2 < a.length then some (a.drop (name.length + 3)).toString else none
      match t.long.lookup name, value? with
      | none, _ => { unknown? := some a }
      | some c, some v =>
        let more := read t rest
        { more with given := (c, v) :: more.given }
      | some c, none =>
        if t.valued.contains c then
          match rest with
          | v :: rest =>
            let more := read t rest
            { more with given := (c, v) :: more.given }
          | [] => { unknown? := some a }
        else
          let more := read t rest
          { more with given := (c, "") :: more.given }
    else if a.startsWith "-" && a ≠ "-" then
      let (given, last, unknown) := t.letters (a.toList.drop 1)
      match unknown, last with
      | some u, _ => { unknown? := some u }
      | none, none =>
        let more := read t rest
        { more with given := given ++ more.given }
      | none, some c =>
        match rest with
        | v :: rest =>
          let more := read t rest
          { more with given := given ++ (c, v) :: more.given }
        | [] => { unknown? := some (String.singleton c) }
    else if t.anywhere then
      let more := read t rest
      { more with operands := a :: more.operands }
    else { operands := a :: rest }

end OptionTable

namespace Options

/-- Whether an option is given. -/
def has (o : Options) (c : Char) : Bool := o.given.any (·.1 = c)

/-- The last value of an option. -/
def value? (o : Options) (c : Char) : Option String :=
  (o.given.reverse.find? (·.1 = c)).map (·.2)

/-- All values of an option. -/
def values (o : Options) (c : Char) : List String := (o.given.filter (·.1 = c)).map (·.2)

end Options

/-- What a tool says that knows no such option. -/
def unknownOption (tool option : String) (code : Nat) : Streams :=
  .failure
    (tool ++ ": invalid option -- '" ++ option ++ "'\nTry '" ++ tool ++ " --help' for more information.")
    code

/-! ### Sources -/

namespace Call

/-- The characters of a file, or of the input. -/
def read (c : Call) (name : String) : Except FileError (List Char) :=
  if name = "-" || name = "/dev/stdin" then .ok c.input
  else (c.files.read (pathOf name)).map Octets.ofBytes

/-- What the named files hold, or the input if none is named. -/
def sources (c : Call) (names : List String) : List (Option String × Except FileError (List Char)) :=
  if names.isEmpty then [(none, .ok c.input)] else names.map fun n => (some n, c.read n)

/-- What is left of the input after files are read. -/
def left? (names : List String) : Option (List Char) :=
  if names.isEmpty || names.contains "-" || names.contains "/dev/stdin" then some [] else none

/-- What the named files hold together, or the input if none is named; and complaints about the
rest. -/
def contents (c : Call) (names : List String) (complain : String → FileError → String) (code : Nat) :
    Streams :=
  (c.sources names).foldl
    (fun acc source =>
      match source.2 with
      | .ok cs => { acc with stdout := acc.stdout ++ cs }
      | .error e =>
        { acc with
          stderr := acc.stderr ++ (complain (source.1.getD "-") e ++ "\n").toList
          code })
    { left? := left? names }

end Call

/-- The complaint about a file that cannot be opened. -/
def cannotOpen (tool name : String) (e : FileError) : String :=
  match e with
  | .isDirectory => tool ++ ": error reading '" ++ name ++ "': " ++ e.reason
  | _ => tool ++ ": cannot open '" ++ name ++ "' for reading: " ++ e.reason

/-- The complaint about a file, with no more than its name. -/
def complaint (tool name : String) (e : FileError) : String := tool ++ ": " ++ name ++ ": " ++ e.reason

end CwlCompliance.Script
