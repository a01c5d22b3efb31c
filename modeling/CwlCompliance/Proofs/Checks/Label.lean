import CwlCompliance.Checks.Unsupported
import CwlCompliance.Proofs.Package.Respelling
import CwlCompliance.Proofs.Package.Scoping

/-!
# How findings name processes

Findings name a process by its class and its local name between quotes, or by its class and its
number after a hash where it has no local name.  A local name can be any text, but no text makes
the name of a process look like the number of another one: what follows the class starts with a
quote in one case and with a hash in the other.

## Main results

* `ProcessClass.name_append_inj` — what follows the name of a class, and which class it is.
* `localName_eq_empty` — which identifiers have no local name.
* `CwlProcess.display_eq_iff` — when two numbered processes are named alike.
* `Package.display_identifies` — **a selected process without a local name is named like no
  other.**
-/

namespace CwlCompliance

/-- A text that starts with the name of a class tells the class and what follows. -/
theorem ProcessClass.name_append_inj {c d : ProcessClass} {x y : String} :
    c.name ++ x = d.name ++ y ↔ c = d ∧ x = y := by
  have hhead : ∀ (c : ProcessClass) (x : String),
      (c.name ++ x).toList.head? = c.name.toList.head? := by
    intro c x
    rw [String.toList_append, List.head?_append]
    cases c <;> rfl
  -- the names of the classes start with different letters
  have hletter : ∀ c d : ProcessClass, c.name.toList.head? = d.name.toList.head? → c = d := by
    intro c d
    cases c <;> cases d <;> decide
  constructor
  · intro h
    obtain rfl : c = d := hletter c d (by rw [← hhead c x, h, hhead])
    exact ⟨rfl, (String.append_right_inj _).mp h⟩
  · rintro ⟨rfl, rfl⟩
    rfl

/-- A text that starts with a quote is none that starts with a hash. -/
theorem quote_append_ne_hash_append (x y : String) : " '" ++ x ≠ " #" ++ y := by
  intro h
  have hlist := congrArg String.toList h
  rw [String.toList_append, String.toList_append] at hlist
  exact absurd (List.cons.inj (List.cons.inj hlist).2).1 (by decide)

/-- An identifier has an empty local name when it is empty or has a hash only at its end. -/
theorem localName_eq_empty {id : String} :
    localName id = "" ↔ id = "" ∨ ∃ base, '#' ∉ base.toList ∧ id = base ++ "#" := by
  constructor
  · intro h
    rw [localName, String.ofList_eq_empty_iff] at h
    by_cases hhash : '#' ∈ id.toList
    · obtain ⟨pre, post, hsplit, hpre⟩ := List.eq_append_cons_of_mem hhash
      rw [hsplit, afterHash_append hpre] at h
      subst h
      refine .inr ⟨String.ofList pre, by rwa [String.toList_ofList], ?_⟩
      rw [← String.toList_inj, hsplit, String.toList_append, String.toList_ofList]
      rfl
    · rw [afterHash_eq_self hhash, String.toList_eq_nil_iff] at h
      exact .inl h
  · rintro (rfl | ⟨base, hbase, rfl⟩)
    · rfl
    · rw [localName, String.toList_append, String.ofList_eq_empty_iff]
      exact afterHash_append hbase []

namespace CwlProcess

variable {p q : CwlProcess} {m n : ℕ} {name : String}

theorem properId_eq_some : p.properId = some name ↔ p.localId = some name ∧ name ≠ "" := by
  rw [properId, Option.filter_eq_some_iff]
  simp

/-- **When two numbered processes are named alike**: when they are of one class and have the same
local name, or both none and the same number. -/
theorem display_eq_iff : p.display m = q.display n ↔
    p.processClass = q.processClass ∧ p.properId = q.properId ∧ (p.properId = none → m = n) := by
  have hnumber : m.repr = n.repr → m = n := by
    intro h
    rw [Nat.repr_eq_ofList_toDigits, Nat.repr_eq_ofList_toDigits, String.ofList_inj] at h
    -- digits tell the number that they write
    rw [← Nat.ofDigitChars_toDigits (b := 10) (n := m) (by decide) (by decide), h,
      Nat.ofDigitChars_toDigits (by decide) (by decide)]
  rw [display, display]
  cases hp : p.properId with
  | some a =>
    cases hq : q.properId with
    | some b =>
      simp only [String.append_assoc, ProcessClass.name_append_inj, String.append_right_inj,
        String.append_left_inj, Option.some.injEq, reduceCtorEq, false_implies, and_true]
    | none =>
      -- no local name looks like a number, since a quote stands before it
      simp only [String.append_assoc, ProcessClass.name_append_inj, quote_append_ne_hash_append,
        reduceCtorEq, false_and, and_false]
  | none =>
    cases hq : q.properId with
    | some b =>
      simp only [String.append_assoc, ProcessClass.name_append_inj,
        (quote_append_ne_hash_append _ _).symm, reduceCtorEq, false_and, and_false]
    | none =>
      simp only [String.append_assoc, ProcessClass.name_append_inj, String.append_right_inj,
        forall_const, true_and]
      exact and_congr_right fun _ => ⟨hnumber, congrArg _⟩

end CwlProcess

namespace Package

variable {p : Package} {entry : Option String} {c : ProcessClass} {t u : CwlProcess} {m n : ℕ}

/-- What is selected of a class is of that class. -/
theorem processClass_of_mem_zipIdx (h : (t, n) ∈ ((p.select entry).ofClass c).zipIdx 1) :
    t.processClass = c := by
  have hmem : t ∈ (p.select entry).ofClass c := by
    rw [← List.zipIdx_map_fst 1 ((p.select entry).ofClass c)]
    exact List.mem_map_of_mem h
  obtain ⟨a, -, hclass, -⟩ := (p.listed_select_ofClass entry c).mem_iff.mp hmem
  exact hclass

/-- **A selected process without a local name is named like no other.**  Of what is selected of a
class, tools or workflows, numbered from one as it is for findings and for the search for what is
not supported, two are named alike exactly when they have the same local name and this is not
empty.  So one without an identifier, or with one that is empty or has its only hash at its end,
shares its name with no other selected, whatever the identifier of that. -/
theorem display_identifies (ht : (t, m) ∈ ((p.select entry).ofClass c).zipIdx 1)
    (hu : (u, n) ∈ ((p.select entry).ofClass c).zipIdx 1) (hmn : m ≠ n) :
    (t.display m = u.display n ↔
      ∃ name, name ≠ "" ∧ t.localId = some name ∧ u.localId = some name) ∧
    ((∀ id, t.id = some id → id = "" ∨ ∃ base, '#' ∉ base.toList ∧ id = base ++ "#") →
      t.display m ≠ u.display n) := by
  have halike : t.display m = u.display n ↔
      ∃ name, name ≠ "" ∧ t.localId = some name ∧ u.localId = some name := by
    rw [CwlProcess.display_eq_iff, processClass_of_mem_zipIdx ht, processClass_of_mem_zipIdx hu]
    constructor
    · rintro ⟨-, hsame, hnone⟩
      cases hname : t.properId with
      | none => exact absurd (hnone hname) hmn
      | some name =>
        obtain ⟨ht, hne⟩ := CwlProcess.properId_eq_some.mp hname
        obtain ⟨hu, -⟩ := CwlProcess.properId_eq_some.mp (hsame ▸ hname)
        exact ⟨name, hne, ht, hu⟩
    · rintro ⟨name, hne, ht, hu⟩
      have ht := CwlProcess.properId_eq_some.mpr ⟨ht, hne⟩
      have hu := CwlProcess.properId_eq_some.mpr ⟨hu, hne⟩
      refine ⟨rfl, ht.trans hu.symm, fun hnone => ?_⟩
      exact nomatch ht.symm.trans hnone
  refine ⟨halike, fun hnameless h => ?_⟩
  obtain ⟨name, hne, hname, -⟩ := halike.mp h
  obtain ⟨id, hid, rfl⟩ := Option.map_eq_some_iff.mp hname
  exact hne (localName_eq_empty.mpr (hnameless id hid))

/-- A process with nothing but a class and perhaps an identifier. -/
def lone (c : ProcessClass) (id : Option String) : CwlProcess :=
  ⟨c, id, none, none, none, none, none, none, [], []⟩

/-- Tools without a local name, tools whose local names look like a number or hold quotes, two tools
with one local name, and two workflows without one. -/
def oddlyNamed : Package where
  text := ""
  document :=
    { value := .null
      cwlVersion := none
      namespaces := []
      processes :=
        [ lone .commandLineTool none
        , lone .workflow (some "")
        , lone .commandLineTool (some "x.cwl#")
        , lone .commandLineTool (some "##2")
        , lone .commandLineTool (some "#it's '#2'")
        , lone .commandLineTool (some "a.cwl#twin")
        , lone .workflow none
        , lone .commandLineTool (some "twin") ] }

theorem display_identifies_oddlyNamed :
    ((oddlyNamed.select none).tools.zipIdx 1).map (fun x => x.1.display x.2) =
      ["CommandLineTool #1", "CommandLineTool #2", "CommandLineTool '#2'",
        "CommandLineTool 'it's '#2''", "CommandLineTool 'twin'", "CommandLineTool 'twin'"] ∧
    (lone .commandLineTool (some "x.cwl#")).display 2 ≠
      (lone .commandLineTool (some "##2")).display 3 ∧
    (lone .commandLineTool (some "a.cwl#twin")).display 5 =
      (lone .commandLineTool (some "twin")).display 6 ∧
    (lone .workflow (some "")).display 1 ≠ (lone .workflow none).display 2 := by
  have hmem : ∀ {c : ProcessClass} {k : ℕ} {x : CwlProcess × ℕ},
      (((oddlyNamed.select none).ofClass c).zipIdx 1)[k]? = some x →
        x ∈ ((oddlyNamed.select none).ofClass c).zipIdx 1 := List.mem_of_getElem?
  refine ⟨by decide +kernel, ?_, ?_, ?_⟩
  · refine (display_identifies (c := .commandLineTool) (hmem (k := 1) rfl) (hmem (k := 2) rfl)
      (by decide)).2 ?_
    rintro _ ⟨⟩
    exact .inr ⟨"x.cwl", by decide, rfl⟩
  · refine (display_identifies (c := .commandLineTool) (hmem (k := 4) rfl) (hmem (k := 5) rfl)
      (by decide)).1.mpr ⟨"twin", by decide, ?_, ?_⟩
    all_goals decide +kernel
  · refine (display_identifies (c := .workflow) (hmem (k := 0) rfl) (hmem (k := 1) rfl)
      (by decide)).2 ?_
    rintro _ ⟨⟩
    exact .inl rfl

end Package

end CwlCompliance
