import CwlCompliance.Text.Utf8

/-!
# Files

A tree of files and directories, found by their paths from a working directory.

## Main definitions

* `FileTree` — the files, the directories and where paths start.
* `FileError` — why a file cannot be had.
* `FileTree.readText` — the text of a file.
* `FileTree.makeDirectories`, `FileTree.append` — how a tree changes.
-/

namespace CwlCompliance

/-- Why a file cannot be had. -/
inductive FileError where
  /-- There is nothing at the path. -/
  | notFound
  /-- It is a directory. -/
  | isDirectory
  /-- Something on the way is no directory. -/
  | notDirectory
  /-- There is something at the path already. -/
  | alreadyThere
  /-- A name is too long. -/
  | nameTooLong
  /-- It may not be used so. -/
  | notPermitted
  /-- The path holds a null character. -/
  | nullInPath
  /-- The file holds no text. -/
  | notText
  deriving DecidableEq, Repr

namespace FileError

/-- The wording of a failure. -/
def reason : FileError → String
  | notFound => "No such file or directory"
  | isDirectory => "Is a directory"
  | notDirectory => "Not a directory"
  | alreadyThere => "File exists"
  | nameTooLong => "File name too long"
  | notPermitted => "Permission denied"
  | nullInPath => "file name contained an unexpected NUL byte"
  | notText => "stream did not contain valid UTF-8"

/-- The number of a failure that the operating system reports. -/
def number? : FileError → Option Nat
  | notFound => some 2
  | isDirectory => some 21
  | notDirectory => some 20
  | alreadyThere => some 17
  | nameTooLong => some 36
  | notPermitted => some 13
  | nullInPath => none
  | notText => none

/-- The wording of a failure, with its number if it has one. -/
def message (e : FileError) : String :=
  match e.number? with
  | some n => e.reason ++ " (os error " ++ toString n ++ ")"
  | none => e.reason

end FileError

/-! ### Paths -/

namespace Path

/-- Whether a path starts at the root. -/
def isAbsolute (path : String) : Bool := path.startsWith "/"

/-- A path from a directory; an absolute path starts anew. -/
def join (directory path : String) : String :=
  if isAbsolute path || directory.isEmpty then path
  else if directory.endsWith "/" then directory ++ path
  else directory ++ "/" ++ path

/-- The characters of a path from its end, without the slashes there and the dots that stand for
the directory before them. -/
def dropIdle : List Char → List Char
  | ['/'] => ['/']
  | '/' :: rest => dropIdle rest
  | '.' :: '/' :: rest => dropIdle ('/' :: rest)
  | cs => cs

/-- A path without what at its end changes nothing. -/
def trimmed (path : String) : String := String.ofList (dropIdle path.toList.reverse).reverse

end Path

/-- What is at a path. -/
inductive FileEntry where
  /-- A file. -/
  | file (content : List UInt8)
  /-- A directory. -/
  | directory
  deriving DecidableEq

/-- A tree of files: what is at each path from the root, and the directory where other paths
start. -/
structure FileTree where
  /-- The entries by the names on the way to them.  What is on the way to an entry is a directory. -/
  entries : List (List String × FileEntry) := []
  /-- The names on the way to the working directory. -/
  workingDirectory : List String := []

namespace FileTree

/-- The path of the working directory. -/
def workingPath (t : FileTree) : String := "/" ++ "/".intercalate t.workingDirectory

/-- The names in a path that are not empty. -/
def names (path : String) : List String :=
  ((path.toList.splitOn '/').filter fun cs => !cs.isEmpty).map String.ofList

/-- What is at the end of some names. -/
def get? (t : FileTree) (names : List String) : Option FileEntry :=
  match t.entries.find? fun e => e.1 == names with
  | some e => some e.2
  | none => if names.isEmpty || t.entries.any fun e => names.isPrefixOf e.1 then some .directory else none

/-- The tree with something at the end of some names. -/
def set (t : FileTree) (names : List String) (e : FileEntry) : FileTree :=
  { t with entries := (names, e) :: t.entries.filter fun x => x.1 != names }

/-- The names to what a list of names leads to from a directory. -/
def walk (t : FileTree) : List String → List String → Except FileError (List String)
  | here, [] => .ok here
  | here, name :: rest =>
    match t.get? here with
    | none => .error .notFound
    | some (.file _) => .error .notDirectory
    | some .directory =>
      if 255 < name.utf8ByteSize then .error .nameTooLong
      else if name = "." then walk t here rest
      else if name = ".." then walk t here.dropLast rest
      else walk t (here ++ [name]) rest

/-- The names to what a path leads to, whether or not there is anything. -/
def locate (t : FileTree) (path : String) : Except FileError (List String) :=
  if path.isEmpty then .error .notFound
  else if path.toList.contains '\x00' then .error .nullInPath
  else if 4096 ≤ path.utf8ByteSize then .error .nameTooLong
  else t.walk (if Path.isAbsolute path then [] else t.workingDirectory) (names path)

/-- What is at a path.  A path that ends in a slash leads to directories only. -/
def find (t : FileTree) (path : String) : Except FileError FileEntry := do
  let names ← t.locate path
  match t.get? names with
  | none => throw .notFound
  | some (.file content) => if path.endsWith "/" then throw .notDirectory else return .file content
  | some .directory => return .directory

/-- Whether there is anything at a path. -/
def has (t : FileTree) (path : String) : Bool :=
  match t.find path with
  | .ok _ => true
  | .error _ => false

/-- The bytes of the file at a path. -/
def read (t : FileTree) (path : String) : Except FileError (List UInt8) := do
  match ← t.find path with
  | .directory => throw .isDirectory
  | .file content => return content

/-- The text of the file at a path. -/
def readText (t : FileTree) (path : String) : Except FileError String := do
  match Utf8.decode? (← t.read path) with
  | some text => return text
  | none => throw .notText

/-- The tree in which every name on a way is a directory, if none is a file. -/
def makeEach (t : FileTree) : List String → List String → Except FileError FileTree
  | _, [] => .ok t
  | here, name :: rest =>
    let next := here ++ [name]
    if name = "." then makeEach t here rest
    else if name = ".." then makeEach t here.dropLast rest
    else if 255 < name.utf8ByteSize then .error .nameTooLong
    else
      match t.get? next with
      | some (.file _) => .error (if rest.isEmpty then .alreadyThere else .notDirectory)
      | some .directory => makeEach t next rest
      | none => makeEach (t.set next .directory) next rest

/-- The tree with a directory at a path, and those on the way to it. -/
def makeDirectories (t : FileTree) (path : String) : Except FileError FileTree :=
  if path.isEmpty then .ok t
  else if path.toList.contains '\x00' then .error .nullInPath
  else t.makeEach (if Path.isAbsolute path then [] else t.workingDirectory) (names path)

/-- The tree with bytes in the file at a path, which is made if it is not there: after those that are
in it or instead of them. -/
def write (t : FileTree) (path : String) (atEnd : Bool) (bytes : List UInt8) :
    Except FileError FileTree := do
  let names ← t.locate path
  match t.get? names with
  | some .directory => throw .isDirectory
  | some (.file content) => return t.set names (.file (if atEnd then content ++ bytes else bytes))
  | none => return t.set names (.file bytes)

/-- The tree with a text added to the file at a path, which is made if it is not there. -/
def append (t : FileTree) (path text : String) : Except FileError FileTree :=
  t.write path true (Utf8.encode text)

end FileTree

end CwlCompliance
