import CwlCompliance.CommandLine.Machine
import CwlCompliance.Proofs.Lists
import CwlCompliance.Proofs.Text.Utf8

/-!
# What sources supply

A source supplies a text in one of three ways: it was typed in, it is what a request over the
network is answered with, or it stands in a file.  A request that has no answer supplies nothing,
and neither does one whose answer has a status that does not mean success; and bytes supply a text
only if they write one.

## Main definitions

* `Machine.Supplies` — the text that a source supplies.

## Main results

* `Location.ofLocator_eq_remote_iff` — which locators lead to the network.
* `Network.textAt_eq_ok_iff`, `FileTree.textAt_eq_ok_iff` — the text at a URL, and in a file.
* `Machine.textAt_eq_ok_iff` — **the text at a source is the one that the source supplies.**
* `Machine.packageAt_eq_ok_iff` — the package at a source is in the text that it supplies.
-/

namespace CwlCompliance

/-! ### Locators -/

/-- The locators of two schemes lead to the network. -/
theorem Location.ofLocator_eq_remote_iff {locator : String} {url : Url} :
    ofLocator locator = .ok (.remote url) ↔
      Url.parse? locator = some url ∧ (url.scheme = "http" ∨ url.scheme = "https") := by
  rw [ofLocator]
  constructor
  · intro h
    split at h
    · exact nomatch h
    · next parsed hparsed =>
      split_ifs at h with hremote hfile hdrive
      · cases h
        exact ⟨hparsed, hremote⟩
      · -- the path of a file URL is no URL
        split at h <;> exact nomatch h
      all_goals exact nomatch h
  · rintro ⟨hparsed, hremote⟩
    rw [hparsed]
    exact if_pos hremote

/-! ### The network and files -/

/-- The text at a URL is that of an answer whose status means success. -/
theorem Network.textAt_eq_ok_iff {n : Network} {url : Url} {text : String} :
    n.textAt url = .ok text ↔
      ∃ status, n url = .answered status (.ok text) ∧ 200 ≤ status ∧ status < 300 := by
  rw [Network.textAt]
  cases n url with
  | failed reason => simp
  | answered status body =>
    by_cases hsuccess : 200 ≤ status ∧ status < 300
    · simp [hsuccess, Reading.mapError_eq_ok]
    · simp [hsuccess]

/-- The text in a file is read there under the name that its path writes. -/
theorem FileTree.textAt_eq_ok_iff {t : FileTree} {path : List UInt8} {text : String} :
    t.textAt path = .ok text ↔ ∃ name, path = Utf8.encode name ∧ t.readText name = .ok text := by
  rw [FileTree.textAt]
  simp only [← Utf8.decode?_eq_some_iff]
  cases Utf8.decode? path with
  | none => simp [Reading.mapError_eq_ok]
  | some name => simp [Reading.mapError_eq_ok]

/-! ### Sources -/

namespace Machine

variable {m : Machine} {source text : String}

/-- A source supplies a text. -/
inductive Supplies (m : Machine) (source text : String) : Prop where
  /-- A dash stands for what is typed in. -/
  | typedIn (hsource : source = "-") (hinput : m.input = Utf8.encode text)
  /-- A URL of the network stands for what a request for it is answered with. -/
  | fetched {url status} (hsource : source ≠ "-") (hurl : Url.parse? source = some url)
    (hscheme : url.scheme = "http" ∨ url.scheme = "https")
    (hanswer : m.network url = .answered status (.ok text)) (hlow : 200 ≤ status)
    (hhigh : status < 300)
  /-- Anything else stands for what is in a file. -/
  | inFile {name} (hsource : source ≠ "-")
    (hpath : Location.ofLocator source = .ok (.onDisk (Utf8.encode name)))
    (hfile : m.files.readText name = .ok text)

/-- **The text at a source is the one that the source supplies.** -/
theorem textAt_eq_ok_iff : m.textAt source = .ok text ↔ m.Supplies source text := by
  by_cases hsource : source = inputSource
  · have htyped : m.Supplies source text ↔ m.input = Utf8.encode text := by
      refine ⟨fun h => ?_, .typedIn hsource⟩
      cases h with
      | typedIn _ h => exact h
      | fetched h => exact absurd hsource h
      | inFile h => exact absurd hsource h
    rw [htyped, textAt, if_pos hsource, ← Utf8.decode?_eq_some_iff]
    cases Utf8.decode? m.input <;> simp
  · rw [textAt, if_neg hsource, Reading.mapError_eq_ok, FileTree.fetch, Reading.bind_eq_ok]
    constructor
    · rintro ⟨location, hlocation, h⟩
      cases location with
      | remote url =>
        obtain ⟨hurl, hscheme⟩ := Location.ofLocator_eq_remote_iff.mp hlocation
        obtain ⟨status, hanswer, hlow, hhigh⟩ := Network.textAt_eq_ok_iff.mp h
        exact .fetched hsource hurl hscheme hanswer hlow hhigh
      | onDisk path =>
        obtain ⟨name, rfl, hfile⟩ := FileTree.textAt_eq_ok_iff.mp h
        exact .inFile hsource hlocation hfile
    · intro h
      cases h with
      | typedIn h => exact absurd h hsource
      | fetched _ hurl hscheme hanswer hlow hhigh =>
        exact ⟨_, Location.ofLocator_eq_remote_iff.mpr ⟨hurl, hscheme⟩,
          Network.textAt_eq_ok_iff.mpr ⟨_, hanswer, hlow, hhigh⟩⟩
      | inFile _ hpath hfile =>
        exact ⟨_, hpath, FileTree.textAt_eq_ok_iff.mpr ⟨_, rfl, hfile⟩⟩

/-- The package at a source is in the text that the source supplies. -/
theorem packageAt_eq_ok_iff {p : Package} : m.packageAt source = .ok p ↔
    ∃ text, m.Supplies source text ∧ Package.ofText text = .ok p := by
  simp only [packageAt, Reading.bind_eq_ok, Reading.mapError_eq_ok, textAt_eq_ok_iff]

/-- A source supplies one text. -/
theorem Supplies.unique {text' : String} (h : m.Supplies source text)
    (h' : m.Supplies source text') : text = text' :=
  Except.ok.inj ((textAt_eq_ok_iff.mpr h).symm.trans (textAt_eq_ok_iff.mpr h'))

end Machine

end CwlCompliance
