/-!
# Scripts

What scripts of the shell command language say: words with quoting and expansions, and commands, from
simple ones to loops and functions.

## Main definitions

* `Part`, `Word`, `Use` — a word, with what is quoted or to be expanded in it.
* `Redirection` — where a stream comes from or goes to.
* `Command` — a command.
* `SyntaxFault`, `Script` — a script: the commands that can be read, and what is wrong after them.
-/

namespace CwlCompliance

namespace Script

/-- How a file is opened for a stream. -/
inductive Mode where
  /-- To be read. -/
  | read
  /-- To be written anew. -/
  | write
  /-- To be added to. -/
  | append
  /-- To be read and written. -/
  | update
  deriving DecidableEq, Repr

mutual

/-- A part of a word. -/
inductive Part where
  /-- Characters as they are. -/
  | text (cs : List Char) (isQuoted : Bool)
  /-- What a parameter gives. -/
  | parameter (name : String) (use : Use) (isQuoted : Bool)
  /-- What commands print. -/
  | output (commands : List Command) (isQuoted : Bool)
  /-- The value of an arithmetic expression. -/
  | value (expression : List Part) (isQuoted : Bool)
  /-- What cannot be expanded. -/
  | invalid

/-- What a parameter gives.  Where a use says so, a parameter that is set but empty counts as not
set. -/
inductive Use where
  /-- Its value. -/
  | plain
  /-- The length of its value. -/
  | length
  /-- Its value, or a word if it is not set. -/
  | orWord (orEmpty : Bool) (word : List Part)
  /-- Its value, or a word that it is set to if it is not set. -/
  | assign (orEmpty : Bool) (word : List Part)
  /-- Its value, or the end of the script with a word as complaint if it is not set. -/
  | require (orEmpty : Bool) (word : List Part)
  /-- A word if it is set. -/
  | ifSet (orEmpty : Bool) (word : List Part)
  /-- Its value without a start that a pattern matches, the longest or the shortest one. -/
  | dropStart (longest : Bool) (pattern : List Part)
  /-- Its value without an end that a pattern matches, the longest or the shortest one. -/
  | dropEnd (longest : Bool) (pattern : List Part)

/-- Where a stream comes from or goes to. -/
inductive Redirection where
  /-- A file. -/
  | file (stream : Nat) (mode : Mode) (name : List Part)
  /-- Where another stream goes, which a word names. -/
  | copy (stream : Nat) (other : List Part)
  /-- A text in the script. -/
  | text (stream : Nat) (content : List Part)

/-- A command. -/
inductive Command where
  /-- Assignments, and words that make up a call, in a line of the script. -/
  | simple (line : Nat) (assignments : List (String × List Part)) (words : List (List Part))
      (redirections : List Redirection)
  /-- Commands each of which reads what the one before it prints. -/
  | pipeline (commands : List Command)
  /-- A command whose success counts as failure, and the other way round. -/
  | negation (command : Command)
  /-- A command, and if it succeeds another. -/
  | andThen (first second : Command)
  /-- A command, and if it fails another. -/
  | orElse (first second : Command)
  /-- Commands one after another. -/
  | sequence (commands : List Command)
  /-- A command that is not waited for. -/
  | background (command : Command)
  /-- Commands in a shell of their own. -/
  | subshell (commands : List Command)
  /-- A command with redirections. -/
  | redirected (line : Nat) (command : Command) (redirections : List Redirection)
  /-- A choice between two lists of commands. -/
  | choice (test yes no : List Command)
  /-- Commands repeated while others succeed, or until they do. -/
  | loop (isUntil : Bool) (test body : List Command)
  /-- Commands repeated for each of some words, or for each parameter of the script. -/
  | each (line : Nat) (name : String) (words : Option (List (List Part))) (body : List Command)
  /-- Commands chosen by the first pattern that matches a word. -/
  | select (line : Nat) (word : List Part) (arms : List (List (List Part) × List Command))
  /-- The definition of a function. -/
  | define (name : String) (body : Command)

end

/-- A word: its parts in order. -/
abbrev Word := List Part

/-- What is wrong with a script. -/
inductive SyntaxFault where
  /-- Something stands where it cannot. -/
  | unexpected (found : String)
  /-- Something stands where something else is expected. -/
  | unexpectedFor (found expected : String)
  /-- Anything else. -/
  | other (message : String)
  deriving DecidableEq, Repr

/-- The wording of a fault. -/
def SyntaxFault.message : SyntaxFault → String
  | unexpected found => found ++ " unexpected"
  | unexpectedFor found expected => found ++ " unexpected (expecting " ++ expected ++ ")"
  | other message => message

end Script

/-- A script: the commands that are complete, and what is wrong after them, with its line. -/
structure Script where
  /-- The commands. -/
  commands : List Script.Command
  /-- What is wrong after them. -/
  fault? : Option (Nat × Script.SyntaxFault) := none

end CwlCompliance
