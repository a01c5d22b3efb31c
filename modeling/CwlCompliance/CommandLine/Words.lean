import CwlCompliance.CommandLine.Request

/-!
# Command lines

A command line names a command, what the command is about, and switches.  A switch is written out
after two dashes or as a letter after one; several letters may share a dash.  Its value follows an
equals sign, or is the next word, or is the rest of the letters.

## Main definitions

* `Switch` — the switches.
* `CommandName` — the commands, with the switches that each knows.
* `Found` — what is found in the words of a command line.
* `Request.ofWords` — what the words ask for.
-/

namespace CwlCompliance

/-! ### Switches -/

/-- The switches. -/
inductive Switch where
  /-- The file that holds the settings. -/
  | settingsFile
  /-- The entry point. -/
  | entryPoint
  /-- The format of the report. -/
  | format
  /-- Not to run the structural validator. -/
  | skipStructural
  /-- To show how the program is used. -/
  | help
  /-- To show which version the program is. -/
  | version
  deriving DecidableEq, Repr

namespace Switch

/-- The name of a switch after two dashes. -/
def name : Switch → String
  | settingsFile => "config"
  | entryPoint => "entry-point"
  | format => "format"
  | skipStructural => "skip-structural"
  | help => "help"
  | version => "version"

/-- The letter of a switch after one dash. -/
def letter : Switch → Option Char
  | entryPoint => some 'e'
  | format => some 'f'
  | help => some 'h'
  | version => some 'V'
  | _ => none

/-- Whether a switch has a value. -/
def hasValue : Switch → Bool
  | settingsFile | entryPoint | format => true
  | skipStructural | help | version => false

/-- Whether a switch can have a value. -/
def accepts (s : Switch) (value : String) : Bool :=
  match s with
  | settingsFile => !value.isEmpty
  | format => (ReportFormat.ofName? value).isSome
  | _ => true

end Switch

/-- The commands by name. -/
inductive CommandName where
  /-- A full validation. -/
  | validate
  /-- A check of one rule. -/
  | check
  /-- A run of the structural validator alone. -/
  | structural
  deriving DecidableEq, Repr

namespace CommandName

/-- All commands. -/
def all : List CommandName := [validate, check, structural]

/-- The name of a command. -/
def text : CommandName → String
  | validate => "validate"
  | check => "check"
  | structural => "structure"

/-- The command with a name. -/
def ofText? (s : String) : Option CommandName := all.find? fun c => c.text == s

/-- The switches that a command knows. -/
def switches : CommandName → List Switch
  | validate => [.settingsFile, .entryPoint, .format, .skipStructural, .help]
  | check => [.settingsFile, .entryPoint, .help]
  | structural => [.settingsFile, .help]

/-- How many words a command is about. -/
def places : CommandName → Nat
  | validate | structural => 1
  | check => 2

end CommandName

/-- The switches before the name of a command. -/
def generalSwitches : List Switch := [.settingsFile, .help, .version]

/-- The name of the command that shows how the program is used. -/
def helpName : String := "help"

/-! ### Reading words -/

/-- What was found so far. -/
structure Found where
  /-- The switches with their values. -/
  switches : List (Switch × String) := []
  /-- The other words. -/
  places : List String := []
  deriving DecidableEq, Repr

namespace Found

/-- The value of a switch. -/
def get? (f : Found) (s : Switch) : Option String := f.switches.lookup s

/-- What was found, with a switch and its value.  No switch is given twice, and those that ask for
a text stop everything. -/
def add (f : Found) (s : Switch) (value : String) : Except Stop Found :=
  match s with
  | .help => .error .help
  | .version => .error .version
  | s =>
    if (f.get? s).isSome || !s.accepts value then .error .misuse
    else .ok { f with switches := (s, value) :: f.switches }

/-- What was found, with another word. -/
def addPlace (f : Found) (limit : Nat) (word : String) : Except Stop Found :=
  if f.places.length < limit then .ok { f with places := f.places ++ [word] } else .error .misuse

end Found

/-- Whether a word is written like switches.  A dash alone is not. -/
def isSwitchWord (word : String) : Bool :=
  match word.toList with
  | '-' :: _ :: _ => true
  | _ => false

/-- The found switches with one whose value is the next word; whether there is one. -/
def withNext (s : Switch) (next : Option String) (f : Found) : Except Stop (Found × Bool) :=
  match next with
  | none => .error .misuse
  | some word => if isSwitchWord word then .error .misuse else (f.add s word).map (·, true)

/-- The found switches with those after two dashes; whether the next word was used up. -/
def withLong (known : List Switch) (cs : List Char) (next : Option String) (f : Found) :
    Except Stop (Found × Bool) :=
  let name := cs.takeWhile (· ≠ '=')
  match known.find? (·.name.toList == name), cs.drop name.length with
  | none, _ => .error .misuse
  | some s, [] => if s.hasValue then withNext s next f else (f.add s "").map (·, false)
  | some s, _ :: value =>
    if s.hasValue then (f.add s (String.ofList value)).map (·, false) else .error .misuse

/-- The value that the rest of the letters is: what follows an equals sign, or all of it. -/
def attached (cs : List Char) : String :=
  match cs with
  | '=' :: value => String.ofList value
  | _ => String.ofList cs

/-- The found switches with those after one dash; whether the next word was used up. -/
def withLetters (known : List Switch) (next : Option String) :
    List Char → Found → Except Stop (Found × Bool)
  | [], f => .ok (f, false)
  | c :: cs, f =>
    match known.find? (·.letter == some c) with
    | none => .error .misuse
    | some s =>
      if s.hasValue then
        if cs.isEmpty then withNext s next f else (f.add s (attached cs)).map (·, false)
      else
        match f.add s "" with
        | .error stop => .error stop
        | .ok f => withLetters known next cs f

/-- The found switches with those that a word is; whether the next word was used up. -/
def withSwitches (known : List Switch) (word : String) (next : Option String) (f : Found) :
    Except Stop (Found × Bool) :=
  match word.toList with
  | '-' :: '-' :: cs => withLong known cs next f
  | _ :: cs => withLetters known next cs f
  | [] => .ok (f, false)

/-- The words left after a switch, when its value may have been the next one. -/
def wordsLeft (used : Bool) (rest : List String) : List String := if used then rest.tail else rest

theorem length_wordsLeft_lt (used : Bool) (rest : List String) :
    (wordsLeft used rest).length < rest.length + 1 := by
  cases used with
  | false => exact Nat.lt_succ_self _
  | true =>
    show rest.tail.length < rest.length + 1
    rw [List.length_tail]
    omega

/-- What the words after the name of a command say.  After two dashes alone there are no more
switches. -/
def readWords (known : List Switch) (limit : Nat) : Found → List String → Except Stop Found
  | f, [] => .ok f
  | f, word :: rest =>
    if word = "--" then rest.foldlM (fun f w => f.addPlace limit w) f
    else if isSwitchWord word then
      match withSwitches known word rest.head? f with
      | .error stop => .error stop
      | .ok (f, used) => readWords known limit f (wordsLeft used rest)
    else
      match f.addPlace limit word with
      | .error stop => .error stop
      | .ok f => readWords known limit f rest
termination_by _ words => words.length
decreasing_by
  · exact length_wordsLeft_lt _ _
  · exact Nat.lt_succ_self _

/-- What the words before and after the name of a command say, with the name. -/
def readCommand : Found → List String → Except Stop (Found × CommandName × List String)
  | _, [] => .error .misuse
  | f, word :: rest =>
    if word = "--" then .error .misuse
    else if isSwitchWord word then
      match withSwitches generalSwitches word rest.head? f with
      | .error stop => .error stop
      | .ok (f, used) => readCommand f (wordsLeft used rest)
    else if word = helpName then
      match rest with
      | [] => .error .help
      | [w] => .error (if w = helpName || (CommandName.ofText? w).isSome then .help else .misuse)
      | _ => .error .misuse
    else
      match CommandName.ofText? word with
      | none => .error .misuse
      | some c => .ok (f, c, rest)
termination_by _ words => words.length
decreasing_by exact length_wordsLeft_lt _ _

/-- The command that found words and switches make up. -/
def CommandName.command (c : CommandName) (f : Found) : Except Stop Command :=
  match c, f.places with
  | .validate, [source] =>
    .ok (.validate
      { source
        entryPoint := f.get? .entryPoint
        format := (f.get? .format).bind ReportFormat.ofName?
        skipStructural := (f.get? .skipStructural).isSome })
  | .check, [rule, source] => .ok (.check { rule, source, entryPoint := f.get? .entryPoint })
  | .structural, [source] => .ok (.structural { source })
  | _, _ => .error .misuse

/-- What the words of a command line ask for.  A file of settings named after the command counts
before one named ahead of it. -/
def Request.ofWords (words : List String) : Except Stop Request := do
  let (before, name, rest) ← readCommand {} words
  let found ← readWords name.switches name.places {} rest
  let command ← name.command found
  return { settingsFile := (found.get? .settingsFile).or (before.get? .settingsFile), command }

end CwlCompliance
