import CwlCompliance.Fault
import CwlCompliance.Source.FileTree
import CwlCompliance.Url.Basic

/-!
# Where packages come from

A locator says where the text of a package is: at a URL, or in a file, named by a URL or by a path.
What lies beyond a URL is known only by what a request for it comes to.

## Main definitions

* `Location`, `Location.ofLocator` — where a locator points to.
* `Reply`, `Network` — what requests come to.
* `FetchError` — why there is no text.
* `Network.textAt`, `FileTree.textAt`, `FileTree.fetch` — the text at a URL, in a file, and behind a
  locator.
-/

namespace CwlCompliance

/-- Where a locator points to. -/
inductive Location where
  /-- To a URL on the network. -/
  | remote (url : Url)
  /-- To the file with a path, given as bytes. -/
  | onDisk (path : List UInt8)
  deriving DecidableEq

/-- What a request over the network comes to. -/
inductive Reply where
  /-- There is no answer, for a reason. -/
  | failed (reason : String)
  /-- There is an answer: its status, and its text or why that cannot be read. -/
  | answered (status : Nat) (body : Except String String)

/-- What requests come to, by the URL that is asked for. -/
abbrev Network := Url → Reply

/-- Why there is no text behind a locator. -/
inductive FetchError where
  /-- A request for a URL has no answer, or an answer whose text cannot be read. -/
  | unanswered (url : Url) (reason : String)
  /-- The answer to a request for a URL has a status that does not mean success. -/
  | refused (url : Url) (status : Nat)
  /-- A file that cannot be read. -/
  | unreadable (path : String) (reason : FileError)
  /-- A URL for files that names none of this machine. -/
  | notFileUrl (locator : String)
  deriving DecidableEq

namespace FetchError

/-- The code of a failure. -/
def code : FetchError → String
  | unanswered .. | refused .. => "AP-FETCH-001"
  | unreadable .. => "AP-FETCH-002"
  | notFileUrl _ => "AP-FETCH-003"

/-- The wording of a failure. -/
def message : FetchError → String
  | unanswered url reason => "request to " ++ url.text ++ " failed: " ++ reason
  | refused url status => url.text ++ " answered with HTTP status " ++ toString status
  | unreadable path reason => "failed to read " ++ path ++ ": " ++ reason.message
  | notFileUrl locator => "'" ++ locator ++ "' is not a valid file URL"

/-- The fault that a failure is. -/
def fault (e : FetchError) : Fault :=
  { category := .fetch, code := .given e.code, message := e.message, cause := some e.message }

end FetchError

/-- Where a locator points to.  Only two schemes lead to the network; a file URL becomes the path of
its file, another URL its path as it is written, and what is no URL is a path.  A scheme of one
letter is a drive, not a scheme. -/
def Location.ofLocator (locator : String) : Except FetchError Location :=
  match Url.parse? locator with
  | none => .ok (.onDisk (Utf8.encode locator))
  | some url =>
    if url.scheme = "http" ∨ url.scheme = "https" then .ok (.remote url)
    else if url.scheme = "file" then
      match url.filePath? with
      | some path => .ok (.onDisk path)
      | none => .error (.notFileUrl locator)
    else if url.scheme.length = 1 then .ok (.onDisk (Utf8.encode locator))
    else .ok (.onDisk (Utf8.encode url.pathText))

namespace Network

/-- A network that answers no request. -/
def offline : Network := fun url =>
  .failed ("error sending request for url (" ++ url.text ++ ")")

/-- The text at a URL.  The statuses from 200 to 299 mean success. -/
def textAt (n : Network) (url : Url) : Except FetchError String :=
  match n url with
  | .failed reason => .error (.unanswered url reason)
  | .answered status body =>
    if 200 ≤ status ∧ status < 300 then body.mapError (.unanswered url)
    else .error (.refused url status)

end Network

namespace FileTree

/-- The text in the file with a path, given as bytes. -/
def textAt (t : FileTree) (path : List UInt8) : Except FetchError String :=
  let result := match Utf8.decode? path with
    | some name => t.readText name
    | none => .error .notFound
  result.mapError (.unreadable (Utf8.decodeLossy path))

/-- The text behind a locator, in a file or at a URL. -/
def fetch (t : FileTree) (locator : String) (network : Network := .offline) :
    Except FetchError String := do
  match ← Location.ofLocator locator with
  | .remote url => network.textAt url
  | .onDisk path => t.textAt path

end FileTree

end CwlCompliance
