import CwlCompliance.Script.Tool.Characters
import CwlCompliance.Script.Tool.Condition
import CwlCompliance.Script.Tool.Directory
import CwlCompliance.Script.Tool.Edit
import CwlCompliance.Script.Tool.Lines
import CwlCompliance.Script.Tool.Search

/-!
# Programs

The programs that can be started, by their names, and the directories in which they are found.

## Main definitions

* `Program`, `Program.named?` — a program: a tool, a shell, or one that starts another.
* `FileTree.withSystem` — files with those of the system.
* `FileTree.program?` — the program at a path, or why none can be started from there.
-/

namespace CwlCompliance

namespace Script

/-- A program that starts another one. -/
inductive Starter where
  /-- It sets variables first. -/
  | environment
  /-- It takes arguments from its input. -/
  | arguments
  /-- It takes so many arguments of its own before the name of the other. -/
  | plain (own : Nat)
  deriving DecidableEq, Repr

/-- A program. -/
inductive Program where
  /-- A tool. -/
  | tool (t : Tool)
  /-- A shell, which reads escapes in what it echoes or not. -/
  | shell (readsEscapes : Bool)
  /-- A program that starts another one. -/
  | starter (s : Starter)
  /-- A program that prints a variable that it sees. -/
  | variablePrinter

namespace Program

/-- A tool under an old name says so. -/
def renamed (old new : String) (t : Tool) : Tool := fun c =>
  Streams.andThen
    { stderr := (old ++ ": warning: " ++ old ++ " is obsolescent; using " ++ new ++ "\n").toList } (t c)

/-- The tools by their names. -/
def tools : List (String × Tool) := [
  ("true", Tool.succeed), ("false", Tool.fail), ("echo", Tool.echoPlain), ("printf", Tool.printf),
  ("test", Tool.test), ("[", Tool.bracket "']'"), ("expr", Tool.expr), ("seq", Tool.seq),
  ("cat", Tool.cat), ("tee", Tool.tee), ("head", Tool.head), ("tail", Tool.tail), ("wc", Tool.wc),
  ("nl", Tool.nl), ("tac", Tool.tac), ("rev", Tool.rev), ("sort", Tool.sort), ("uniq", Tool.uniq),
  ("cut", Tool.cut), ("paste", Tool.paste), ("fold", Tool.fold), ("tr", Tool.tr),
  ("grep", Tool.grep), ("sed", Tool.sed), ("basename", Tool.basename), ("dirname", Tool.dirname),
  ("rm", Tool.rm), ("rmdir", Tool.rmdir), ("mkdir", Tool.mkdir), ("touch", Tool.touch), ("cp", Tool.cp),
  ("mv", Tool.mv), ("ls", Tool.ls), ("chmod", Tool.chmod), ("base64", Tool.base64), ("sha256sum", Tool.sha256sum), ("sleep", Tool.succeed),
  ("egrep", renamed "egrep" "grep -E" (Tool.grepAs "grep" true)),
  ("fgrep", renamed "fgrep" "grep -F" fun c =>
    Tool.grep { c with arguments := "-F" :: c.arguments })]

/-- The programs that are no tools by their names. -/
def others : List (String × Program) := [
  ("sh", .shell true), ("dash", .shell true), ("bash", .shell false), ("env", .starter .environment),
  ("xargs", .starter .arguments), ("nohup", .starter (.plain 0)), ("setsid", .starter (.plain 0)),
  ("nice", .starter (.plain 0)), ("timeout", .starter (.plain 1)), ("printenv", .variablePrinter)]

/-- The program with a name. -/
def named? (name : String) : Option Program :=
  match others.lookup name with
  | some p => some p
  | none => (tools.lookup name).map .tool

end Program

end Script

open Script (Program)

namespace FileTree

/-- The directories of the system, and files in them. -/
def systemEntries : List (List String × FileEntry) :=
  let directories := [["tmp"], ["etc"], ["dev"], ["root"], ["home"], ["var"], ["proc"], ["lib"], ["opt"],
    ["usr", "lib"], ["usr", "share"]] ++ Script.Condition.programDirectories
  let programs := Program.tools.map (·.1) ++ Program.others.map (·.1)
  let files := [["etc", "passwd"], ["etc", "hosts"], ["etc", "hostname"], ["etc", "group"],
    ["etc", "shadow"], ["etc", "os-release"], ["dev", "null"]] ++
    programs.flatMap fun p => [["bin", p], ["usr", "bin", p]]
  directories.map (·, .directory) ++ files.map fun names =>
    (names, .file (if names.head? = some "dev" then [] else [0x23]))

/-- Files with those of the system. -/
def withSystem (t : FileTree) : FileTree := { t with entries := t.entries ++ systemEntries }

/-- The program that is started by a path, or why none is. -/
def programAt (t : FileTree) (path : String) : Except FileError Program := do
  let entry ← t.find path
  let names ← t.locate path
  match entry with
  | .directory => throw .notPermitted
  | .file _ =>
    match (if Script.Condition.programDirectories.contains names.dropLast then names.getLast? else none).bind
      Program.named? with
    | some p => return p
    | none => throw .notPermitted

/-- The program that is started by a name, or why none is.  A name without a slash is looked for
where programs are; the directory itself and the one above are there too, but no programs. -/
def program? (t : FileTree) (name : String) : Except FileError Program :=
  if name.toList.contains '/' then t.programAt name
  else if name = "." ∨ name = ".." then .error .notPermitted
  else if 255 < name.utf8ByteSize then .error .nameTooLong
  else
    match Program.named? name with
    | some p => .ok p
    | none => .error .notFound

end FileTree

end CwlCompliance
