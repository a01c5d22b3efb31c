import CwlCompliance.Script.Field
import CwlCompliance.Script.Program
import CwlCompliance.Script.Reader
import CwlCompliance.Script.State

/-!
# Commands of the shell

The commands that the shell runs itself and that run no other commands.

## Main definitions

* `Signal` — the signals by their names.
* `builtinTools` — the tools that are part of the shell.
* `State.builtin?` — what the other commands do to the state.
-/

namespace CwlCompliance.Script

/-! ### Signals -/

/-- A signal. -/
structure Signal where
  /-- Its number. -/
  number : Nat
  /-- Its name. -/
  name : String
  /-- What is said of a program that it ends; nothing if it ends none. -/
  epitaph? : Option String

namespace Signal

/-- The signals. -/
def all : List Signal := [
  ⟨0, "EXIT", none⟩, ⟨1, "HUP", some "Hangup"⟩, ⟨2, "INT", some ""⟩, ⟨3, "QUIT", some "Quit"⟩,
  ⟨4, "ILL", some "Illegal instruction"⟩, ⟨5, "TRAP", some "Trace/breakpoint trap"⟩,
  ⟨6, "ABRT", some "Aborted"⟩, ⟨7, "BUS", some "Bus error"⟩,
  ⟨8, "FPE", some "Floating point exception"⟩, ⟨9, "KILL", some "Killed"⟩,
  ⟨10, "USR1", some "User defined signal 1"⟩, ⟨11, "SEGV", some "Segmentation fault"⟩,
  ⟨12, "USR2", some "User defined signal 2"⟩, ⟨13, "PIPE", some ""⟩, ⟨14, "ALRM", some "Alarm clock"⟩,
  ⟨15, "TERM", some "Terminated"⟩, ⟨16, "STKFLT", some "Stack fault"⟩, ⟨17, "CHLD", none⟩,
  ⟨18, "CONT", none⟩, ⟨23, "URG", none⟩, ⟨24, "XCPU", some "CPU time limit exceeded"⟩,
  ⟨25, "XFSZ", some "File size limit exceeded"⟩, ⟨26, "VTALRM", some "Virtual timer expired"⟩,
  ⟨27, "PROF", some "Profiling timer expired"⟩, ⟨28, "WINCH", none⟩, ⟨29, "IO", some "I/O possible"⟩,
  ⟨30, "PWR", some "Power failure"⟩, ⟨31, "SYS", some "Bad system call"⟩]

/-- The signal that a text names, by its number or its name. -/
def ofText? (s : String) : Option Signal :=
  match s.toNat? with
  | some n => all.find? (·.number = n)
  | none => all.find? (·.name = s.toUpper)

/-- What is said of a program that a signal ended. -/
def epitaph (number : Nat) : String :=
  ((all.find? (·.number = number)).bind (·.epitaph?)).getD ""

end Signal

/-! ### Tools of the shell -/

/-- The tools that are part of the shell. -/
def builtinTools (readsEscapes : Bool) : List (String × Tool) := [
  ("true", Tool.succeed), ("false", Tool.fail),
  ("echo", if readsEscapes then Tool.echo else Tool.echoPlain), ("printf", Tool.printf),
  ("test", Tool.test), ("[", Tool.bracket "]")]

/-- The names of the other commands of the shell that are not special. -/
def regularBuiltins : List String := [
  "alias", "bg", "cd", "chdir", "command", "fg", "getopts", "hash", "jobs", "kill", "local", "pwd", "read",
  "type", "ulimit", "umask", "unalias", "wait"]

/-- Whether a name is that of a command of the shell. -/
def isBuiltin (name : String) : Bool :=
  specialBuiltins.contains name || regularBuiltins.contains name ||
    (builtinTools true).any (·.1 = name)

/-- The number that decimal digits write. -/
def natural? (s : String) : Option Nat := if s.toList.all Char.isDigit then s.toNat? else none

/-- A text in quotes from which the shell reads it back. -/
def quotedText (s : String) : String :=
  "'" ++ String.join (s.toList.map fun c => if c = '\x27' then "'\"'\"'" else String.singleton c) ++ "'"

namespace State

/-! ### Variables and parameters -/

/-- A variable set, unless it stays as it is. -/
def assignChecked (setter? : Option String) (name value : String) (s : State) : State :=
  if s.constants.contains name then
    s.fatal ((match setter? with | some b => b ++ ": " | none => "") ++ name ++ ": is read only")
  else
    let s := s.assign name value
    if s.hasOption 'a' then s.makeExported name else s

/-- The name and the value in an argument. -/
def assignmentOf (arg : String) : String × Option String :=
  match arg.splitOn "=" with
  | name :: value :: more => (name, some ("=".intercalate (value :: more)))
  | _ => (arg, none)

/-- Each argument names a variable, to which something is done after it is set if a value is given. -/
def declareEach (command : String) (mark : String → State → State) (args : List String) (s : State) :
    State :=
  args.foldl
    (fun s arg =>
      if !s.goesOn then s
      else
        let (name, value?) := assignmentOf arg
        if !isName name.toList then s.fatal (command ++ ": " ++ name ++ ": bad variable name")
        else
          let s := match value? with
            | some v => s.assignChecked (some command) name v
            | none => s
          if s.goesOn then mark name s else s)
    (s.withCode 0)

/-- The listing of some variables. -/
def listing (command : String) (s : State) (names : List String) : State :=
  let row := fun name =>
    command ++ " " ++ name ++
      (match s.lookup name with | some v => "=" ++ quotedText v | none => "") ++ "\n"
  (s.write 1 (String.join ((names.mergeSort fun a b => decide (a ≤ b)).map row)).toList).withCode 0

/-- A local variable of the function. -/
def makeLocal (name : String) (value? : Option String) (s : State) : State :=
  match s.hidden with
  | [] => s
  | frame :: rest =>
    let s := if frame.any (·.1 = name) then s
      else { s with hidden := ((name, s.lookup name) :: frame) :: rest }
    match value? with
    | some v => s.assignChecked (some "local") name v
    | none => s

/-- The long names of options. -/
def optionNames : List (String × Char) := [
  ("errexit", 'e'), ("noglob", 'f'), ("ignoreeof", 'I'), ("interactive", 'i'), ("monitor", 'm'),
  ("noexec", 'n'), ("stdin", 's'), ("xtrace", 'x'), ("verbose", 'v'), ("vi", 'V'), ("emacs", 'E'),
  ("noclobber", 'C'), ("allexport", 'a'), ("notify", 'b'), ("nounset", 'u'), ("privileged", 'p'),
  ("nolog", 'L'), ("debug", 'D')]

/-- An option switched on or off. -/
def switch (isOn : Bool) (c : Char) (s : State) : State :=
  let others := s.options.filter (· ≠ c)
  { s with options := if isOn then c :: others else others }

/-- Options switched on or off by their letters. -/
def switchAll (command : String) (isOn : Bool) (letters : List Char) (s : State) : State :=
  letters.foldl
    (fun s c =>
      if !s.goesOn then s
      else if optionNames.any (·.2 = c) then s.switch isOn c
      else s.fatal (command ++ "Illegal option " ++ (if isOn then "-" else "+") ++ String.singleton c))
    s

/-- The options and parameters that arguments set. -/
def setFrom (command : String) : List String → State → State
  | [], s => s
  | "--" :: rest, s => { s with parameters := rest }
  | "-" :: rest, s => if rest.isEmpty then { s with parameters := [] } else { s with parameters := rest }
  | arg :: rest, s =>
    match arg.toList with
    | '-' :: 'o' :: [] | '+' :: 'o' :: [] =>
      let isOn := arg.startsWith "-"
      match rest with
      | name :: more =>
        match optionNames.lookup name with
        | some c => setFrom command more (s.switch isOn c)
        | none => s.fatal (command ++ "Illegal option " ++ arg ++ " " ++ name)
      | [] => s
    | '-' :: letters => setFrom command rest (s.switchAll command true letters)
    | '+' :: letters => setFrom command rest (s.switchAll command false letters)
    | _ => { s with parameters := arg :: rest }

/-! ### Reading -/

/-- A line of the input, where a backslash quotes the next character unless it is taken as it is; what
is left, and whether the line has an end.  Quoted characters are told apart. -/
def lineFrom (isRaw : Bool) : List Char → List Glyph × List Char × Bool
  | [] => ([], [], false)
  | '\n' :: rest => ([], rest, true)
  | '\\' :: c :: rest =>
    if isRaw then
      let (gs, left, ended) := lineFrom isRaw (c :: rest)
      ({ char := '\\', isExpanded := true } :: gs, left, ended)
    else
      let (gs, left, ended) := lineFrom isRaw rest
      (if c = '\n' then gs else { char := c, isQuoted := true } :: gs, left, ended)
  | c :: rest =>
    let (gs, left, ended) := lineFrom isRaw rest
    ({ char := c, isExpanded := true } :: gs, left, ended)

/-- Whether a glyph is a divider, and a blank one. -/
def dividerKind (dividers : List Char) (g : Glyph) : Option Bool :=
  if g.isQuoted || !dividers.contains g.char then none
  else some (g.char = ' ' || g.char = '\t' || g.char = '\n')

/-- The values that a line gives to so many variables: the last one gets all that is left. -/
def lineValues (dividers : List Char) : Nat → List Glyph → List String
  | 0, _ => []
  | 1, gs =>
    let isBlank := fun g => dividerKind dividers g = some true
    let kept := ((gs.dropWhile isBlank).reverse.dropWhile isBlank).reverse
    let fields := fieldsOf dividers (kept.map .glyph)
    if fields.length ≤ 1 then [String.ofList ((fields.head?.getD []).map (·.char))]
    else [String.ofList (kept.map (·.char))]
  | n + 1, gs =>
    let isBlank := fun g => dividerKind dividers g = some true
    let gs := gs.dropWhile isBlank
    let word := gs.takeWhile fun g => (dividerKind dividers g).isNone
    let rest := (gs.drop word.length).dropWhile isBlank
    let rest := match rest with
      | g :: more =>
        if dividerKind dividers g = some false then more.dropWhile isBlank else rest
      | [] => []
    String.ofList (word.map (·.char)) :: lineValues dividers n rest

/-- The names and whether the line is taken as it is, of the arguments of `read`. -/
def readNames : List String → Bool × List String
  | "-r" :: rest => (true, (readNames rest).2)
  | "-p" :: _ :: rest => readNames rest
  | "--" :: rest => (false, rest)
  | args => (false, args)

/-- Reads a line into variables. -/
def readLine (args : List String) (s : State) : State :=
  let (isRaw, names) := readNames args
  if names.isEmpty then (s.complain "read: arg count").withCode 2
  else
    let (gs, left, ended) := lineFrom isRaw s.input.1
    let s := s.setInput left
    let s := (names.zip (lineValues s.dividers names.length gs)).foldl
      (fun s (name, value) => if s.goesOn then s.assignChecked (some "read") name value else s) s
    if s.goesOn then s.withCode (if ended then 0 else 1) else s

/-! ### Signals -/

/-- What a signal to the script itself does: nothing if it is to be ignored or ends nothing. -/
def receive (signal : Signal) (s : State) : State :=
  match s.traps.lookup signal.name with
  | some "" => s.withCode 0
  | some action => { s with pending := s.pending ++ [action], code := 0 }
  | none => if signal.epitaph?.isSome then s.ended (.killed signal.number) else s.withCode 0

/-- The usage of `kill`. -/
def killUsage : String :=
  "kill: Usage: kill [-s sigspec | -signum | -sigspec] [pid | job]... or\nkill -l [exitstatus]"

/-- Sends a signal to programs; only the script itself is there. -/
def send (signal : Signal) (targets : List String) (s : State) : State :=
  match targets with
  | [] => (s.complain killUsage).withCode 2
  | targets =>
    match targets.find? fun t => (natural? t).isNone with
    | some t => (s.complain ("kill: Illegal number: " ++ t)).withCode 2
    | none =>
      if targets.contains ownNumber then s.receive signal
      else (s.complain "kill: No such process").withCode 1

/-- Runs `kill`. -/
def kill (args : List String) (s : State) : State :=
  match args with
  | "-l" :: n :: _ =>
    match (natural? n).bind fun n => Signal.all.find? (·.number = n % 128) with
    | some signal => (s.write 1 (signal.name ++ "\n").toList).withCode 0
    | none => (s.complain ("kill: invalid signal number or exit status: " ++ n)).withCode 2
  | "-s" :: name :: targets =>
    match Signal.ofText? name with
    | some signal => s.send signal targets
    | none => (s.complain ("kill: invalid signal number or name: " ++ name)).withCode 2
  | "--" :: targets => s.send ⟨15, "TERM", some "Terminated"⟩ targets
  | arg :: targets =>
    match arg.toList with
    | '-' :: c :: rest =>
      match Signal.ofText? (String.ofList (c :: rest)) with
      | some signal => s.send signal targets
      | none => (s.complain ("kill: Illegal option -" ++ String.singleton c)).withCode 2
    | _ => s.send ⟨15, "TERM", some "Terminated"⟩ args
  | [] => (s.complain killUsage).withCode 2

/-- What is run on signals is set, taken back or listed. -/
def trap (args : List String) (s : State) : State :=
  let args := match args with | "--" :: rest => rest | args => args
  let change := fun (action? : Option String) (names : List String) (s : State) =>
    names.foldl
      (fun s name =>
        match Signal.ofText? name with
        | none => (s.complain ("trap: " ++ name ++ ": bad trap")).withCode 1
        | some signal =>
          let others := s.traps.filter (·.1 ≠ signal.name)
          { s with traps := match action? with | some a => others ++ [(signal.name, a)] | none => others })
      (s.withCode 0)
  match args with
  | [] =>
    let rows := Signal.all.filterMap fun signal =>
      (s.traps.lookup signal.name).map fun a => "trap -- " ++ quotedText a ++ " " ++ signal.name ++ "\n"
    (s.write 1 (String.join rows).toList).withCode 0
  | [one] => change none [one] s
  | "-" :: names => change none names s
  | action :: names =>
    if (natural? action).isSome then change none (action :: names) s else change (some action) names s

/-! ### Directories and names -/

/-- Goes to another directory. -/
def changeDirectory (args : List String) (s : State) : State :=
  let target := match args.filter (· ≠ "--") with
    | "-" :: _ => (s.lookup "OLDPWD").getD ""
    | t :: _ => t
    | [] => (s.lookup "HOME").getD ""
  if target.isEmpty then s.withCode 0
  else
    match s.files.find (pathOf target), s.files.locate (pathOf target) with
    | .ok .directory, .ok names =>
      let old := Octets.text s.files.workingPath
      let s := { s with files := { s.files with workingDirectory := names } }
      let new := Octets.text s.files.workingPath
      let s := (s.assign "OLDPWD" old).assign "PWD" new
      (if args.contains "-" then s.write 1 (new ++ "\n").toList else s).withCode 0
    | _, _ => (s.complain ("cd: can't cd to " ++ target)).withCode 2

/-- The path of a program with a name. -/
def programPath? (s : State) (name : String) : Option String :=
  if name.toList.contains '/' then
    match s.files.program? (pathOf name) with | .ok _ => some name | .error _ => none
  else (Program.named? (pathOf name)).map fun _ => "/usr/bin/" ++ name

/-- What kind of command a name is that of. -/
def kindOf (s : State) (name : String) : Option String :=
  if keywords.contains name then some "is a shell keyword"
  else if specialBuiltins.contains name then some "is a special shell builtin"
  else if (s.functions.lookup name).isSome then some "is a shell function"
  else if isBuiltin name then some "is a shell builtin"
  else (s.programPath? name).map fun p => "is " ++ p

/-- Says what kinds of commands names are those of. -/
def describe (names : List String) (s : State) : State :=
  names.foldl
    (fun s name =>
      match s.kindOf name with
      | some kind => s.write 1 (name ++ " " ++ kind ++ "\n").toList
      | none => (s.write 1 (name ++ ": not found\n").toList).withCode 127)
    (s.withCode 0)

/-- Says how a name would be run. -/
def locateCommand (name : String) (s : State) : State :=
  let found? := if (s.kindOf name).isNone then none
    else if keywords.contains name || isBuiltin name || (s.functions.lookup name).isSome then some name
    else s.programPath? name
  match found? with
  | some p => (s.write 1 (p ++ "\n").toList).withCode 0
  | none => s.withCode 127

/-! ### Flow -/

/-- The number that an argument gives, if it is one; otherwise the script ends. -/
def withNumber (command : String) (args : List String) (default : Nat) (go : Nat → State → State)
    (s : State) : State :=
  match args with
  | [] => go default s
  | a :: _ =>
    match natural? a with
    | some n => go n s
    | none => s.fatal (command ++ ": Illegal number: " ++ a)

/-- What a command of the shell does that runs no other commands. -/
def builtin? (name : String) (args : List String) (s : State) : Option State :=
  match name with
  | ":" => some (s.withCode 0)
  | "break" =>
    some (s.withNumber name args 1 fun n s =>
      if s.loops = 0 then s.withCode 0 else { s with flow := .leaving (min n s.loops), code := 0 })
  | "continue" =>
    some (s.withNumber name args 1 fun n s =>
      if s.loops = 0 then s.withCode 0 else { s with flow := .repeating (min n s.loops), code := 0 })
  | "return" => some (s.withNumber name args s.code fun n s => { s with flow := .returning, code := n })
  | "exit" => some (s.withNumber name args s.code fun n s => s.ended (.exited (n % 256)))
  | "shift" =>
    some (s.withNumber name args 1 fun n s =>
      if s.parameters.length < n then s.fatal "shift: can't shift that many"
      else { s with parameters := s.parameters.drop n, code := 0 })
  | "set" =>
    match args with
    | [] =>
      let rows := (s.values.mergeSort fun a b => decide (a.1 ≤ b.1)).map fun (n, v) =>
        n ++ "=" ++ quotedText v ++ "\n"
      some ((s.write 1 (String.join rows).toList).withCode 0)
    | ["-o"] =>
      let rows := optionNames.map fun (n, c) =>
        n ++ String.ofList (List.replicate (16 - n.length) ' ') ++
          (if s.hasOption c then "on" else "off") ++ "\n"
      some ((s.write 1 ("Current option settings\n" ++ String.join rows).toList).withCode 0)
    | args => some (setFrom "set: " args (s.withCode 0))
  | "unset" =>
    some (args.foldl
      (fun s arg =>
        if arg = "-v" ∨ arg = "-f" ∨ !s.goesOn then s
        else if args.head? = some "-f" then { s with functions := s.functions.filter (·.1 ≠ arg) }
        else if s.constants.contains arg then s.fatal ("unset: " ++ arg ++ ": is read only")
        else s.unset arg)
      (s.withCode 0))
  | "export" =>
    some (if args.isEmpty || args = ["-p"] then s.listing name s.exported
      else s.declareEach name makeExported (args.filter (· ≠ "--")))
  | "readonly" =>
    some (if args.isEmpty || args = ["-p"] then s.listing name s.constants
      else s.declareEach name (fun n s => { s with constants := n :: s.constants }) (args.filter (· ≠ "--")))
  | "local" =>
    some (if s.hidden.isEmpty then s.fatal "local: not in a function"
      else args.foldl
        (fun s arg =>
          let (n, v?) := assignmentOf arg
          if s.goesOn then s.makeLocal n v? else s)
        (s.withCode 0))
  | "read" => some (s.readLine args)
  | "kill" => some (s.kill args)
  | "trap" => some (s.trap args)
  | "cd" | "chdir" => some (s.changeDirectory args)
  | "pwd" => some ((s.write 1 (Octets.text s.files.workingPath ++ "\n").toList).withCode 0)
  | "type" => some (s.describe args)
  | "umask" => some ((if args.isEmpty then s.write 1 "0022\n".toList else s).withCode 0)
  | "times" => some ((s.write 1 "0m0.000000s 0m0.000000s\n0m0.000000s 0m0.000000s\n".toList).withCode 0)
  | "wait" | "alias" | "unalias" | "hash" | "jobs" | "bg" | "fg" | "ulimit" | "getopts" =>
    some (s.withCode 0)
  | _ => none

end State

end CwlCompliance.Script
