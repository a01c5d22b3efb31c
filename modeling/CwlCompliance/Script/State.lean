import CwlCompliance.Script.Glob
import CwlCompliance.Script.Sum
import CwlCompliance.Script.Syntax
import CwlCompliance.Script.Tool.Basic

/-!
# The state of a script

What a running script knows and has done: its variables and parameters, where its streams go, what
it has printed, and how it goes on.

## Main definitions

* `Ending`, `Flow` — how a script ends, and how it goes on.
* `Channel` — where a stream goes to or comes from.
* `State` — the state of a script, with its variables, streams and complaints.
-/

namespace CwlCompliance.Script

/-- How a script ends. -/
inductive Ending where
  /-- With an exit code. -/
  | exited (code : Nat)
  /-- By a signal. -/
  | killed (signal : Nat)
  deriving DecidableEq, Repr

/-- The exit code that an ending has for the script that waits for it. -/
def Ending.code : Ending → Nat
  | exited code => code
  | killed signal => 128 + signal

/-- How a script goes on. -/
inductive Flow where
  /-- With the next command. -/
  | onward
  /-- After so many loops. -/
  | leaving (loops : Nat)
  /-- With the next round of a loop, after leaving so many loops less one. -/
  | repeating (loops : Nat)
  /-- After the function. -/
  | returning
  /-- Not at all. -/
  | ended (e : Ending)
  deriving DecidableEq, Repr

/-- Where a stream goes to or comes from.  What streams hold is kept in buffers, which several
streams can share. -/
inductive Channel where
  /-- It goes to a buffer. -/
  | sink (buffer : Nat)
  /-- It comes from a buffer, which may hold a file. -/
  | source (buffer : Nat) (isFile : Bool)
  /-- It goes to the end of a file. -/
  | file (path : String)
  /-- It goes nowhere. -/
  | nowhere
  deriving DecidableEq, Repr

/-- A script that is running. -/
structure State where
  /-- Its name. -/
  name : String := "sh"
  /-- Its parameters. -/
  parameters : List String := []
  /-- Whether it reads escapes in what it echoes. -/
  readsEscapes : Bool := true
  /-- The variables, without those that are not set. -/
  values : List (String × String) := []
  /-- The variables that the programs it calls see. -/
  exported : List String := []
  /-- The variables that stay as they are. -/
  constants : List String := []
  /-- The values that local variables of the functions around hide, the innermost function first. -/
  hidden : List (List (String × Option String)) := []
  /-- The functions. -/
  functions : List (String × Command) := []
  /-- The commands that run on signals, by their names. -/
  traps : List (String × String) := []
  /-- The commands that are to run on signals that have come. -/
  pending : List String := []
  /-- The options, by their letters. -/
  options : List Char := []
  /-- The exit code of the last command. -/
  code : Nat := 0
  /-- The exit code of the last commands that stand in an expansion, if there were any. -/
  expansionCode? : Option Nat := none
  /-- The line that is run. -/
  line : Nat := 1
  /-- The number of loops around. -/
  loops : Nat := 0
  /-- Where the streams go. -/
  channels : List (Nat × Channel) := [(0, .source 0 false), (1, .sink 1), (2, .sink 2)]
  /-- The buffers. -/
  buffers : List (List Char) := [[], [], []]
  /-- The files. -/
  files : FileTree := {}
  /-- How it goes on. -/
  flow : Flow := .onward

namespace State

/-! ### Variables -/

/-- The value of a variable. -/
def lookup (s : State) (name : String) : Option String := s.values.lookup name

/-- The variable set to a value. -/
def assign (name value : String) (s : State) : State :=
  { s with values := (name, value) :: s.values.filter (·.1 ≠ name) }

/-- The variable not set. -/
def unset (name : String) (s : State) : State :=
  { s with
    values := s.values.filter (·.1 ≠ name)
    exported := s.exported.filter (· ≠ name) }

/-- The variable set, or not set, as it was. -/
def restore (s : State) (old : String × Option String) : State :=
  match old.2 with
  | some value => s.assign old.1 value
  | none => { s with values := s.values.filter (·.1 ≠ old.1) }

/-- The variable visible to programs. -/
def makeExported (name : String) (s : State) : State :=
  { s with exported := name :: s.exported.filter (· ≠ name) }

/-- The variables that programs see. -/
def environment (s : State) : List (String × String) :=
  s.values.filter fun v => s.exported.contains v.1

/-- Whether an option is on. -/
def hasOption (s : State) (c : Char) : Bool := s.options.contains c

/-- The characters that divide words. -/
def dividers (s : State) : List Char := ((s.lookup "IFS").getD " \t\n").toList

/-- The number under which a script knows itself. -/
def ownNumber : String := "1"

/-- What a parameter stands for that is not all parameters. -/
def parameter? (s : State) (name : String) : Option String :=
  match name with
  | "#" => some (toString s.parameters.length)
  | "?" => some (toString s.code)
  | "$" => some ownNumber
  | "-" => some (String.ofList s.options.reverse)
  | "!" => none
  | "0" => some s.name
  | _ =>
    match name.toNat? with
    | some n => s.parameters[n - 1]?
    | none => s.lookup name

/-! ### Streams -/

/-- Where a stream goes. -/
def channel? (s : State) (stream : Nat) : Option Channel := s.channels.lookup stream

/-- The stream sent elsewhere, or closed. -/
def redirect (stream : Nat) (channel? : Option Channel) (s : State) : State :=
  let others := s.channels.filter (·.1 ≠ stream)
  { s with channels := match channel? with | some c => (stream, c) :: others | none => others }

/-- A new buffer with some content, and its number. -/
def addBuffer (content : List Char) (s : State) : Nat × State :=
  (s.buffers.length, { s with buffers := s.buffers ++ [content] })

/-- Characters written to where a stream goes. -/
def writeTo (channel? : Option Channel) (cs : List Char) (s : State) : State :=
  match channel? with
  | some (.sink n) => { s with buffers := s.buffers.modify n (· ++ cs) }
  | some (.file path) =>
    match s.files.write (pathOf path) true (Octets.toBytes cs) with
    | .ok files => { s with files }
    | .error _ => s
  | _ => s

/-- Characters written to a stream. -/
def write (stream : Nat) (cs : List Char) (s : State) : State :=
  if cs.isEmpty then s else s.writeTo (s.channel? stream) cs

/-- What can be read as input, and whether it is a file. -/
def input (s : State) : List Char × Bool :=
  match s.channel? 0 with
  | some (.source n isFile) => ((s.buffers[n]?).getD [], isFile)
  | _ => ([], false)

/-- The input after some of it was read. -/
def setInput (left : List Char) (s : State) : State :=
  match s.channel? 0 with
  | some (.source n _) => { s with buffers := s.buffers.set n left }
  | _ => s

/-! ### Complaints and endings -/

/-- A complaint of the script. -/
def complain (message : String) (s : State) : State :=
  s.write 2 (s.name ++ ": " ++ toString s.line ++ ": " ++ message ++ "\n").toList

/-- The script with the exit code of a command. -/
def withCode (code : Nat) (s : State) : State := { s with code }

/-- The script at its end. -/
def ended (e : Ending) (s : State) : State := { s with flow := .ended e, code := e.code }

/-- The script ended by a complaint. -/
def fatal (message : String) (s : State) : State := (s.complain message).ended (.exited 2)

/-- Whether the script goes on with the next command. -/
def goesOn (s : State) : Bool := s.flow = .onward

/-- The complaints of a tool that is part of the shell, each with the name of the script. -/
def builtinComplaints (s : State) (cs : List Char) : List Char :=
  if cs.isEmpty then []
  else (s.name ++ ": " ++ toString s.line ++ ": ").toList ++ cs

/-- What a tool gives back, written to where the streams go. -/
def apply (o : Streams) (s : State) : State :=
  let s := (s.write 1 o.stdout).write 2 o.stderr
  let s := match o.left? with | some left => s.setInput left | none => s
  { s with code := o.code, files := o.files?.getD s.files }

/-- What a tool is called with. -/
def call (s : State) (arguments : List String) : Call :=
  { arguments, input := s.input.1, isFile := s.input.2, files := s.files }

/-- The script after commands that ran in a shell of their own: what they did outside of it stays. -/
def afterSubshell (s inner : State) : State :=
  let s := { s with buffers := inner.buffers, files := { inner.files with workingDirectory := s.files.workingDirectory } }
  match inner.flow with
  | .ended (.killed signal) => { s with flow := .ended (.killed signal), code := 128 + signal }
  | .ended e => { s with code := e.code }
  | _ => { s with code := inner.code }

/-- What commands print that run in a shell of their own, and the script after them. -/
def capture (run : State → State) (s : State) : List Char × State :=
  let (n, inner) := s.addBuffer []
  let r := run (inner.redirect 1 (some (.sink n)))
  let after := s.afterSubshell r
  ((r.buffers[n]?).getD [], { after with buffers := after.buffers.take n })

end State

end CwlCompliance.Script
