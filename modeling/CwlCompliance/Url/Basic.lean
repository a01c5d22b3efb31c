import CwlCompliance.Url.Host

/-!
# URLs

An absolute URL: a scheme, perhaps an authority, a path, and perhaps a query and a fragment.  Some
schemes are special: their URLs always have an authority, a backslash separates like a slash, and
their default port is left out.

## Main definitions

* `Url`, `Url.text`, `Url.pathText` — URLs and their text.
* `Url.parse?` — the URL that a text writes.
* `Url.filePath?` — the path of the file that a URL names.
-/

namespace CwlCompliance

/-- What a scheme asks of its URLs. -/
inductive SchemeKind where
  /-- Files of this machine. -/
  | file
  /-- An authority is required. -/
  | special
  /-- Nothing is asked. -/
  | plain
  deriving DecidableEq, Repr

/-- The kind of a scheme. -/
def SchemeKind.of (scheme : String) : SchemeKind :=
  if scheme = "file" then .file
  else if ["http", "https", "ws", "wss", "ftp"].contains scheme then .special
  else .plain

/-- The port that a scheme implies. -/
def defaultPort? (scheme : String) : Option Nat :=
  [("http", 80), ("ws", 80), ("https", 443), ("wss", 443), ("ftp", 21)].lookup scheme

/-- The authority of a URL. -/
structure Authority where
  /-- The user name. -/
  username : String := ""
  /-- The password. -/
  password : Option String := none
  /-- The host. -/
  host : Host
  /-- The port, if it is not the one that the scheme implies. -/
  port : Option Nat := none
  deriving DecidableEq, Repr

/-- The path of a URL. -/
inductive UrlPath where
  /-- A path that is no list of segments. -/
  | whole (text : String)
  /-- Segments, each after a slash. -/
  | segments (list : List String)
  deriving DecidableEq, Repr

/-- A URL. -/
structure Url where
  /-- The scheme in small letters. -/
  scheme : String
  /-- The authority. -/
  authority : Option Authority
  /-- The path. -/
  path : UrlPath
  /-- The query. -/
  query : Option String
  /-- The fragment. -/
  fragment : Option String
  deriving DecidableEq, Repr

namespace Url

/-! ### Writing -/

/-- The text of an authority. -/
def authorityText (a : Authority) : String :=
  let password := match a.password with
    | none => ""
    | some p => ":" ++ p
  let user := a.username ++ password
  let port := match a.port with
    | none => ""
    | some p => ":" ++ toString p
  (if user.isEmpty then "" else user ++ "@") ++ a.host.text ++ port

/-- The text of a path. -/
def pathText (u : Url) : String :=
  match u.path with
  | .whole text => text
  | .segments list => String.join (list.map ("/" ++ ·))

/-- The text of a URL.  A path that would look like an authority is set off by a dot. -/
def text (u : Url) : String :=
  let authority := match u.authority with
    | some a => "//" ++ authorityText a
    | none => if u.pathText.startsWith "//" then "/." else ""
  let query := match u.query with
    | none => ""
    | some q => "?" ++ q
  let fragment := match u.fragment with
    | none => ""
    | some f => "#" ++ f
  u.scheme ++ ":" ++ authority ++ u.pathText ++ query ++ fragment

/-! ### Reading: pieces -/

/-- Whether a character belongs to a scheme. -/
def isSchemeChar (c : Char) : Bool := c.isAlphanum || c = '+' || c = '-' || c = '.'

/-- The scheme at the start of a text, in small letters, and what follows its colon. -/
def scheme? (cs : List Char) : Option (String × List Char) :=
  let name := cs.takeWhile isSchemeChar
  match cs.drop name.length with
  | ':' :: rest =>
    if name.head?.any Char.isAlpha then some (String.ofList (name.map Char.toLower), rest) else none
  | _ => none

/-- Whether a character separates segments. -/
def isSlash (kind : SchemeKind) (c : Char) : Bool := c = '/' || (c = '\\' && kind ≠ .plain)

/-- Whether a character ends an authority. -/
def endsAuthority (kind : SchemeKind) (c : Char) : Bool := isSlash kind c || c = '?' || c = '#'

/-- Whether a character ends a path. -/
def endsPath (c : Char) : Bool := c = '?' || c = '#'

/-- What stands before the last of some characters in a text, and what after it. -/
def cutLast? (mark : Char) (cs : List Char) : Option (List Char × List Char) :=
  match cs.reverse.dropWhile (· ≠ mark) with
  | [] => none
  | _ :: before => some (before.reverse, (cs.reverse.takeWhile (· ≠ mark)).reverse)

/-- A user name and a password that is not empty. -/
def credentials (cs : List Char) : String × Option String :=
  let name := cs.takeWhile (· ≠ ':')
  let password := cs.drop (name.length + 1)
  let encode := fun cs => String.ofList (Percent.encode Percent.userinfo cs)
  (encode name, if password.isEmpty then none else some (encode password))

/-- The characters of a host, up to a colon outside brackets. -/
def hostChars : Bool → List Char → List Char
  | _, [] => []
  | inside, c :: rest =>
    if c = ':' ∧ !inside then []
    else c :: hostChars (if c = '[' then true else if c = ']' then false else inside) rest

/-- The port that digits write, which may be none. -/
def port? (scheme : String) (cs : List Char) : Option (Option Nat) :=
  if !cs.all Char.isDigit then none
  else
    let n := cs.foldl (fun n c => min 65536 (n * 10 + (c.toNat - 48))) 0
    if 65535 < n then none
    else some (if cs.isEmpty ∨ defaultPort? scheme = some n then none else some n)

/-- The authority that starts a text, if it is not malformed, and what is left of the text: a port
ends at a backslash.  `atEnd` says that nothing follows the text. -/
def authority? (scheme : String) (kind : SchemeKind) (atEnd : Bool) (cs : List Char) :
    Option (Authority × List Char) := do
  let (user, place) := match cutLast? '@' cs with
    | none => (none, cs)
    | some (user, place) => (some user, place)
  let (username, password) := credentials (user.getD [])
  let hostText := hostChars false place
  let afterHost := place.drop hostText.length
  let host ← if kind = .special then Host.parse? hostText else Host.parseOpaque? hostText
  let isEmpty := host = .domain ""
  let digits := (afterHost.drop 1).takeWhile (· ≠ '\\')
  let port ←
    if afterHost.isEmpty then some none else if isEmpty then none else port? scheme digits
  if isEmpty && (kind = .special || !username.isEmpty || password.isSome) then none
  if user = some [] && place.isEmpty && !atEnd then none
  return ({ username, password, host, port }, (afterHost.drop 1).drop digits.length)

/-! ### Reading: paths -/

/-- Whether a character is dropped wherever it stands. -/
def isIgnored (c : Char) : Bool := c = '\t' || c = '\n' || c = '\r'

/-- The characters that count. -/
def significant (cs : List Char) : List Char := cs.filter fun c => !isIgnored c

/-- Whether a segment stands for its own directory. -/
def isDot (s : String) : Bool := [".", "%2e"].contains (s.map Char.toLower)

/-- Whether a segment stands for the directory above. -/
def isDoubleDot (s : String) : Bool :=
  ["..", ".%2e", "%2e.", "%2e%2e"].contains (s.map Char.toLower)

/-- Whether characters are a drive letter: a letter and a colon or a bar. -/
def isDrive : List Char → Bool
  | [a, b] => a.isAlpha && (b = ':' || b = '|')
  | _ => false

/-- Whether a segment is a drive letter, perhaps with a backslash and more after it. -/
def onDrive (s : String) : Bool :=
  isDrive (s.toList.take 2) && (s.toList.drop 2).head?.all (· = '\\')

/-- The segments of the directory above.  There is none above a drive letter. -/
def above (path : List String) : List String :=
  if path.getLast?.any onDrive then path else path.dropLast

/-- A drive letter with a colon that an ignored character cuts off from what follows it in the same
segment, and what follows it. -/
def cutDrive? (cs : List Char) : Option (List Char × List Char) :=
  match cs.dropWhile isIgnored with
  | [] => none
  | a :: rest =>
    match rest.dropWhile isIgnored with
    | ':' :: c :: rest =>
      if a.isAlpha ∧ isIgnored c ∧ !(significant rest).isEmpty then
        some ([a, ':'], significant rest)
      else none
    | _ => none

/-- A path that is being read. -/
structure PathSoFar where
  /-- Its segments. -/
  segments : List String := []
  /-- Whether it starts with a drive letter, which no host can have. -/
  hasDrive : Bool := false

/-- Characters as they stand in a path. -/
def segmentText (cs : List Char) : String := String.ofList (Percent.encode Percent.path (significant cs))

/-- The path after one more segment.  The last segment counts even if it is empty.  A drive letter
that starts the path of a file is written with a colon. -/
def PathSoFar.add (kind : SchemeKind) (isLast : Bool) (p : PathSoFar) (cs : List Char) : PathSoFar :=
  let s := segmentText cs
  let starts := kind = .file ∧ p.segments = []
  match (if starts then cutDrive? cs else none) with
  | some (drive, rest) => { p with segments := [String.ofList drive, segmentText rest] }
  | none =>
    if isDoubleDot s then { p with segments := above p.segments ++ (if isLast then [""] else []) }
    else if isDot s then { p with segments := p.segments ++ (if isLast then [""] else []) }
    else if starts ∧ isDrive s.toList then
      { segments := [(s.take 1).toString ++ ":"], hasDrive := true }
    else { p with segments := p.segments ++ [s] }

/-- The path after all its parts between slashes. -/
def PathSoFar.addAll (kind : SchemeKind) : PathSoFar → List (List Char) → PathSoFar
  | p, [] => p
  | p, [s] => p.add kind true s
  | p, s :: rest => (p.add kind false s).addAll kind rest

/-- The path whose first slash has been read.  The path of a file does not start with an empty
segment unless that is all it has. -/
def readPath (kind : SchemeKind) (cs : List Char) : PathSoFar :=
  let slashed := cs.map fun c => if isSlash kind c then '/' else c
  let path := PathSoFar.addAll kind {} (Domain.splitAt '/' slashed)
  if kind = .file then
    let segments := path.segments.dropWhile String.isEmpty
    { path with segments := if segments.isEmpty then [""] else segments }
  else path

/-- The path after an authority. -/
def readPathAfterAuthority (kind : SchemeKind) (cs : List Char) : PathSoFar :=
  match cs.dropWhile isIgnored with
  | [] => if kind = .plain then {} else readPath kind []
  | c :: rest => readPath kind (if isSlash kind c then rest else cs)

/-! ### Reading: URLs -/

/-- What follows a path: the query and the fragment. -/
def tail (kind : SchemeKind) (cs : List Char) : Option String × Option String :=
  let readFragment := fun cs => String.ofList (Percent.encode Percent.fragment cs)
  match cs with
  | '?' :: rest =>
    let q := rest.takeWhile (· ≠ '#')
    let set := if kind = .plain then Percent.query else Percent.specialQuery
    let fragment := match rest.drop q.length with
      | [] => none
      | _ :: f => some (readFragment f)
    (some (String.ofList (Percent.encode set q)), fragment)
  | '#' :: rest => (none, some (readFragment rest))
  | _ => (none, none)

/-- The characters of a path, and those of the query and the fragment after it. -/
def cutPath (cs : List Char) : List Char × List Char :=
  let path := cs.takeWhile fun c => !endsPath c
  (path, cs.drop path.length)

/-- The URL of a place, from the place, the path and what follows the path. -/
def complete (scheme : String) (kind : SchemeKind) (authority : Option Authority) (path : UrlPath)
    (rest : List Char) : Url :=
  let (query, fragment) := tail kind (significant rest)
  { scheme, authority, path, query, fragment }

/-- The URL with an authority. -/
def withAuthority? (scheme : String) (kind : SchemeKind) (cs : List Char) : Option Url := do
  let place := cs.takeWhile fun c => !endsAuthority kind c
  let rest := cs.drop place.length
  let (authority, left) ← authority? scheme kind rest.isEmpty place
  let (path, rest) := cutPath (left ++ rest)
  return complete scheme kind (some authority) (.segments (readPathAfterAuthority kind path).segments) rest

/-- The URL of a file on a host.  A path with a drive letter is on no other host. -/
def fileOn (host : Host) (path : PathSoFar) (rest : List Char) : Url :=
  let host := if path.hasDrive then .domain "" else host
  complete "file" .file (some { host }) (.segments path.segments) rest

/-- The URL of a file of this machine, from its path and what follows. -/
def localFile (cs : List Char) : Url :=
  let (path, rest) := cutPath cs
  fileOn (.domain "") (readPath .file path) rest

/-- The URL of a file, from the host and what follows it.  A drive letter is no host: the path starts
with it.  Where no other machine is named, the path starts with all that follows. -/
def hostedFile? (cs : List Char) : Option Url :=
  let place := cs.takeWhile fun c => !endsAuthority .file c
  let name := significant place
  let rest := cs.drop place.length
  if isDrive name then some (localFile cs)
  else if name.isEmpty then some (localFile rest)
  else
    match Host.parse? name with
    | none => none
    | some (.domain "localhost") => some (localFile rest)
    | some host =>
      let (path, rest) := cutPath rest
      some (fileOn host (readPathAfterAuthority .file path) rest)

/-- The URL of a file, from what follows its scheme; ignored characters still stand in it. -/
def file? (cs : List Char) : Option Url :=
  match cs.dropWhile isIgnored with
  | [] => some (localFile cs)
  | a :: rest =>
    if !isSlash .file a then some (localFile cs)
    else
      match rest.dropWhile isIgnored with
      | [] => some (localFile rest)
      | b :: hosted => if isSlash .file b then hostedFile? hosted else some (localFile rest)

/-- The URL of a scheme of which nothing is asked, from what follows the scheme. -/
def plain? (scheme : String) (cs : List Char) : Option Url :=
  match cs with
  | '/' :: '/' :: rest => withAuthority? scheme .plain rest
  | '/' :: rest =>
    let (path, rest) := cutPath rest
    some (complete scheme .plain none (.segments (readPath .plain path).segments) rest)
  | cs =>
    let (path, rest) := cutPath cs
    some (complete scheme .plain none (.whole (String.ofList (Percent.encode Percent.control path))) rest)

/-- Whether a character is dropped from the ends of a text. -/
def isOuter (c : Char) : Bool := c.toNat ≤ 0x20

/-- The absolute URL that a text writes. -/
def parse? (s : String) : Option Url := do
  let written := ((s.toList.dropWhile isOuter).reverse.dropWhile isOuter).reverse
  let (scheme, rest) ← scheme? (significant written)
  match SchemeKind.of scheme with
  | .file => file? ((written.dropWhile (· ≠ ':')).drop 1)
  | .special => withAuthority? scheme .special (rest.dropWhile (isSlash .special))
  | .plain => plain? scheme rest

/-! ### Files -/

/-- The bytes of the path of the file that a URL names, which has to be on this machine.  A path that
ends in a drive letter gets a slash. -/
def filePath? (u : Url) : Option (List UInt8) :=
  match u.path with
  | .whole _ => none
  | .segments list =>
    if (u.authority.map (·.host)).all fun h => h = .domain "" ∨ h = .domain "localhost" then
      let bytes := list.flatMap fun s => 47 :: Percent.decode (Utf8.encode s)
      let endsInDrive := match bytes.reverse with
        | b :: a :: _ :: _ => (b = 58 || b = 124) && (Char.ofNat a.toNat).isAlpha
        | _ => false
      some (if endsInDrive then bytes ++ [47] else bytes)
    else none

end Url

end CwlCompliance
