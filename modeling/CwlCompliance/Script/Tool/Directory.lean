import CwlCompliance.Script.Tool.Basic

/-!
# Files and directories

The tools that make, move, remove and list files.

## Main definitions

* `FileTree.erase` — files without what is at the end of some names.
* `Tool.rm`, `Tool.mkdir`, `Tool.rmdir`, `Tool.touch` — files made and removed.
* `Tool.cp`, `Tool.mv` — files copied and moved.
* `Tool.ls` — the names in directories.
-/

namespace CwlCompliance

namespace FileTree

/-- The tree without what is at the end of some names, and all below it.  The directory that it is in
stays. -/
def erase (t : FileTree) (names : List String) : FileTree :=
  let t := { t with entries := t.entries.filter fun e => !names.isPrefixOf e.1 }
  if (t.get? names.dropLast).isSome then t else t.set names.dropLast .directory

/-- The names of what is in a directory, in order. -/
def children (t : FileTree) (directory : List String) : List String :=
  let names := t.entries.filterMap fun e =>
    if directory.isPrefixOf e.1 then (e.1.drop directory.length).head? else none
  names.eraseDups.mergeSort fun a b => decide (a ≤ b)

end FileTree

namespace Script

namespace Tool

/-- What is done to the files for each of some paths: each time the files after it, or a complaint. -/
def forEach (paths : List String) (go : FileTree → String → Except String FileTree) (c : Call) : Streams :=
  paths.foldl
    (fun acc path =>
      match go (acc.files?.getD c.files) path with
      | .ok files => { acc with files? := some files }
      | .error message => acc.andThen (.failure message 1))
    {}

/-- The complaint about a path to which something cannot be done. -/
def cannot (tool what path : String) (e : FileError) : String :=
  tool ++ ": cannot " ++ what ++ " '" ++ path ++ "': " ++ e.reason

/-- A tool with options and operands, of which there has to be one. -/
def withOperands (tool : String) (table : OptionTable) (go : Options → Tool) : Tool := fun c =>
  let o := table.read c.arguments
  match o.unknown?, o.operands with
  | some u, _ => unknownOption tool u 1
  | none, [] =>
    .failure (tool ++ ": missing operand\nTry '" ++ tool ++ " --help' for more information.") 1
  | none, _ => go o c

/-- Removes files, or with `-r` directories too. -/
def rm : Tool := fun c =>
  let table : OptionTable := { plain := ['r', 'R', 'f', 'v', 'i', 'd'], long := [("recursive", 'r'), ("force", 'f')] }
  let o := table.read c.arguments
  if o.operands.isEmpty && o.has 'f' then {}
  else
    withOperands "rm" table (fun o c =>
      forEach o.operands (fun t path =>
        match t.find (pathOf path), t.locate (pathOf path) with
        | .ok .directory, .ok names =>
          if o.has 'r' || o.has 'R' then .ok (t.erase names)
          else .error (cannot "rm" "remove" path .isDirectory)
        | .ok (.file _), .ok names => .ok (t.erase names)
        | .error e, _ | _, .error e =>
          if o.has 'f' && (e = .notFound || e = .notDirectory) then .ok t
          else .error (cannot "rm" "remove" path e)) c) c

/-- Removes directories that are empty. -/
def rmdir : Tool :=
  withOperands "rmdir" { plain := ['p', 'v'] } fun o c =>
    forEach o.operands (fun t path =>
      let failed := fun (reason : String) => .error ("rmdir: failed to remove '" ++ path ++ "': " ++ reason)
      match t.find (pathOf path), t.locate (pathOf path) with
      | .ok .directory, .ok names =>
        if (t.children names).isEmpty then .ok (t.erase names) else failed "Directory not empty"
      | .ok (.file _), _ => failed FileError.notDirectory.reason
      | .error e, _ | _, .error e => failed e.reason) c

/-- Makes directories, or with `-p` all on the way to them. -/
def mkdir : Tool :=
  withOperands "mkdir" { plain := ['p', 'v'], valued := ['m'], long := [("parents", 'p')] } fun o c =>
    forEach o.operands (fun t path =>
      let failed := fun (e : FileError) => .error (cannot "mkdir" "create directory" path e)
      if o.has 'p' then
        match t.makeDirectories (pathOf path) with
        | .ok t => .ok t
        | .error e => failed e
      else
        match t.locate (pathOf path) with
        | .error e => failed e
        | .ok names =>
          if (t.get? names).isSome then failed .alreadyThere else .ok (t.set names .directory)) c

/-- Makes files that are not there. -/
def touch : Tool :=
  withOperands "touch" { plain := ['a', 'c', 'm'], valued := ['d', 't', 'r'] } fun o c =>
    forEach o.operands (fun t path =>
      match t.find (pathOf path) with
      | .ok _ => .ok t
      | .error e =>
        if o.has 'c' && e = .notFound then .ok t
        else
          match t.write (pathOf path) true [] with
          | .ok t => .ok t
          | .error e => .error (cannot "touch" "touch" path e)) c

/-- The names that a file gets which is copied or moved to a path: its own name in a directory. -/
def destination (t : FileTree) (source target : String) : Except FileError (List String) := do
  let names ← t.locate (pathOf target)
  match t.get? names with
  | some .directory => return names ++ ((← t.locate (pathOf source)).getLast?).toList
  | _ => return names

/-- Copies or moves files to the last of its operands. -/
def transfer (tool : String) (moves : Bool) : Tool :=
  withOperands tool
    { plain := ['r', 'R', 'a', 'f', 'p', 'v', 'n', 'i'], long := [("recursive", 'r'), ("force", 'f')] }
    fun o c =>
      match o.operands.reverse with
      | target :: first :: more =>
        forEach (first :: more).reverse (fun t path =>
          match t.find (pathOf path), t.locate (pathOf path), destination t path target with
          | .error e, _, _ | _, .error e, _ => .error (cannot tool "stat" path e)
          | _, _, .error e => .error (cannot tool "create regular file" target e)
          | .ok (.file content), .ok names, .ok target =>
            .ok ((if moves then t.erase names else t).set target (.file content))
          | .ok .directory, .ok names, .ok target =>
            if moves || o.has 'r' || o.has 'R' || o.has 'a' then
              let below := t.entries.filterMap fun e =>
                if names.isPrefixOf e.1 then some (target ++ e.1.drop names.length, e.2) else none
              .ok ((target, FileEntry.directory) :: below |>.foldl (fun t e => t.set e.1 e.2)
                (if moves then t.erase names else t))
            else .error (tool ++ ": -r not specified; omitting directory '" ++ path ++ "'")) c
      | [one] =>
        .failure (tool ++ ": missing destination file operand after '" ++ one ++ "'\nTry '" ++ tool ++
          " --help' for more information.") 1
      | [] => {}

/-- Copies files. -/
def cp : Tool := transfer "cp" false

/-- Moves files. -/
def mv : Tool := transfer "mv" true

/-- Lists the names in directories. -/
def ls : Tool := fun c =>
  let table : OptionTable := { plain := ['1', 'a', 'A', 'd', 'r', 'p', 'F'] }
  let o := table.read c.arguments
  match o.unknown? with
  | some u => unknownOption "ls" u 2
  | none =>
    let operands := if o.operands.isEmpty then ["."] else o.operands
    let ordered := fun (names : List String) => if o.has 'r' then names.reverse else names
    let shown := fun (names : List String) => (String.join ((ordered names).map (· ++ "\n"))).toList
    let listed := fun (path : String) =>
      match c.files.locate (pathOf path) with
      | .ok names =>
        let all := (c.files.children names).map Octets.text
        let visible := all.filter fun n => o.has 'a' || o.has 'A' || !n.startsWith "."
        shown (if o.has 'a' then "." :: ".." :: visible else visible)
      | .error _ => []
    let kinds := operands.map fun path => (path, c.files.find (pathOf path))
    let wrong := kinds.filterMap fun (path, r) =>
      match r with | .error e => some (cannot "ls" "access" path e ++ "\n") | .ok _ => none
    let files := kinds.filterMap fun (path, r) =>
      match r with
      | .ok (.file _) => some path
      | .ok .directory => if o.has 'd' then some path else none
      | .error _ => none
    let directories := kinds.filterMap fun (path, r) =>
      match r with | .ok .directory => if o.has 'd' then none else some path | _ => none
    let sections := (if files.isEmpty then [] else [shown (files.mergeSort fun a b => decide (a ≤ b))]) ++
      directories.map fun path =>
        (if 1 < operands.length then (path ++ ":\n").toList else []) ++ listed path
    { stdout := ['\n'].intercalate sections, stderr := (String.join wrong).toList
      code := if wrong.isEmpty then 0 else 2 }

/-- Changes who may do what with files, as far as they are there. -/
def chmod : Tool :=
  withOperands "chmod" { plain := ['R', 'v', 'f'], anywhere := false } fun o c =>
    forEach (o.operands.drop 1) (fun t path =>
      match t.find (pathOf path) with
      | .ok _ => .ok t
      | .error e => .error (cannot "chmod" "access" path e)) c

end Tool

end Script

end CwlCompliance
