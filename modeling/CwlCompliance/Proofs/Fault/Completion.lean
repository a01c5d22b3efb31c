import CwlCompliance.Fault.Text
import CwlCompliance.Proofs.Fault.Details
import CwlCompliance.Proofs.Lists

/-!
# Faults that are completed step by step

A fault is made of a category and a message, and then completed: it is given codes,
details and hints, in any number and in any order.  Whatever the steps are, the fault
says in the end what they say, and what it is shown as does not depend on the order in
which its details are found.

## Main definitions

* `Fault.Initial` — faults as they are made.
* `Completion`, `Fault.complete`, `Fault.completeAll` — the steps, and a fault after them.
* `Completion.lastCode?`, `Completion.lastValue?`, `Completion.allHints` — what steps say.
* `Completion.SameOrder` — steps in another order, in which none takes another's place.
* `Fault.onOneLine`, `Fault.onLines` — how details are shown, in whatever order they are
  found.
* `Fault.Reflects` — a fault says what the steps say that completed it.

## Main results

* `Fault.code_complete`, `Fault.get?_complete`, … — what one step does.
* `Fault.code_completeAll`, `Fault.get?_completeAll`, … — what all steps do.
* `Fault.display_eq`, `Fault.report_eq` — what a fault is shown as, in whatever order its
  details are found.
* `Fault.completeAll_eq_of_sameOrder` — in which order steps give the same fault.
* `Fault.reflects_completeAll` — **a completed fault says what its steps say.**
-/

namespace CwlCompliance

/-- A step that completes a fault. -/
inductive Completion where
  /-- It is given a code. -/
  | code (text : String)
  /-- It is given a detail. -/
  | detail (name value : String)
  /-- It is given a hint. -/
  | hint (text : String)
  deriving DecidableEq, Repr

namespace Completion

/-! ### What steps say -/

/-- The code that a step gives. -/
def code? : Completion → Option String
  | code text => some text
  | _ => none

/-- The value that a step gives a name. -/
def value? (name : String) : Completion → Option String
  | detail n value => if name = n then some value else none
  | _ => none

/-- The hint that a step gives. -/
def hint? : Completion → Option String
  | hint text => some text
  | _ => none

/-- The code that is given last. -/
def lastCode? (steps : List Completion) : Option String := (steps.filterMap code?).getLast?

/-- The value that a name is given last. -/
def lastValue? (steps : List Completion) (name : String) : Option String :=
  (steps.filterMap (value? name)).getLast?

/-- The hints that are given. -/
def allHints (steps : List Completion) : List String := steps.filterMap hint?

/-- The codes come in the same order, the hints do, and so do the values of each name. -/
structure SameOrder (steps steps' : List Completion) : Prop where
  /-- The codes come in the same order. -/
  codes : steps'.filterMap code? = steps.filterMap code?
  /-- The hints come in the same order. -/
  hints : steps'.filterMap hint? = steps.filterMap hint?
  /-- The values of a name come in the same order. -/
  values : ∀ name, steps'.filterMap (value? name) = steps.filterMap (value? name)

end Completion

open Completion (lastCode? lastValue? allHints)

namespace Fault

variable {f : Fault} {steps : List Completion}

/-- A fault as it is made, before it is completed. -/
inductive Initial : Fault → Prop
  /-- A category and a message. -/
  | new (category : Category) (message : String) : Initial { category, message }
  /-- A category and a message, about another failure. -/
  | wrapping (category : Category) (message cause : String) :
    Initial { category, message, cause := some cause }
  /-- A failure of the file system. -/
  | io (failure : String) : Initial (ofIo failure)

/-- A fault after a step. -/
def complete (f : Fault) : Completion → Fault
  | .code text => f.withCode text
  | .detail name value => f.withDetail name value
  | .hint text => f.withHint text

/-- A fault after steps. -/
def completeAll (f : Fault) (steps : List Completion) : Fault := steps.foldl complete f

theorem Initial.details_eq_nil (h : f.Initial) : f.details = [] := by
  cases h <;> rfl

/-! ### One step -/

theorem code_complete (f : Fault) (s : Completion) :
    (f.complete s).code = s.code?.elim f.code .given := by
  cases s <;> rfl

theorem hints_complete (f : Fault) (s : Completion) :
    (f.complete s).hints = f.hints ++ s.hint?.toList := by
  cases s with
  | hint text => rfl
  | code text => exact (List.append_nil _).symm
  | detail name value => exact (List.append_nil _).symm

theorem get?_complete (f : Fault) (s : Completion) (name : String) :
    (f.complete s).details.get? name = (s.value? name).or (f.details.get? name) := by
  cases s with
  | detail n value =>
    show (f.details.insert n value).get? name = _
    rw [Details.get?_insert, Completion.value?]
    split <;> rfl
  | code text => rfl
  | hint text => rfl

theorem sorted_complete (h : f.details.Sorted) (s : Completion) :
    (f.complete s).details.Sorted := by
  cases s with
  | detail name value => exact h.insert name value
  | code text => exact h
  | hint text => exact h

/-- A step leaves alone what the fault is about. -/
theorem about_complete (f : Fault) (s : Completion) : (f.complete s).category = f.category ∧
    (f.complete s).message = f.message ∧ (f.complete s).cause = f.cause := by
  cases s <;> exact ⟨rfl, rfl, rfl⟩

/-! ### All steps -/

theorem about_completeAll (f : Fault) (steps : List Completion) :
    (f.completeAll steps).category = f.category ∧ (f.completeAll steps).message = f.message ∧
      (f.completeAll steps).cause = f.cause := by
  induction steps generalizing f with
  | nil => exact ⟨rfl, rfl, rfl⟩
  | cons s steps ih =>
    obtain ⟨hcategory, hmessage, hcause⟩ := about_complete f s
    obtain ⟨hcategory', hmessage', hcause'⟩ := ih (f.complete s)
    exact ⟨hcategory'.trans hcategory, hmessage'.trans hmessage, hcause'.trans hcause⟩

theorem code_completeAll (f : Fault) (steps : List Completion) :
    (f.completeAll steps).code = (lastCode? steps).elim f.code .given := by
  induction steps generalizing f with
  | nil => rfl
  | cons s steps ih =>
    rw [completeAll, List.foldl_cons, ← completeAll, ih, code_complete, lastCode?, lastCode?,
      getLast?_filterMap_cons]
    cases (steps.filterMap Completion.code?).getLast? <;> rfl

theorem get?_completeAll (f : Fault) (steps : List Completion) (name : String) :
    (f.completeAll steps).details.get? name =
      (lastValue? steps name).or (f.details.get? name) := by
  induction steps generalizing f with
  | nil => rfl
  | cons s steps ih =>
    rw [completeAll, List.foldl_cons, ← completeAll, ih, get?_complete, lastValue?,
      lastValue?, getLast?_filterMap_cons, Option.or_assoc]

theorem hints_completeAll (f : Fault) (steps : List Completion) :
    (f.completeAll steps).hints = f.hints ++ allHints steps := by
  induction steps generalizing f with
  | nil => exact (List.append_nil _).symm
  | cons s steps ih =>
    rw [completeAll, List.foldl_cons, ← completeAll, ih, hints_complete, List.append_assoc,
      allHints, allHints]
    cases hs : s.hint? with
    | none => rw [List.filterMap_cons_none hs, Option.toList_none, List.nil_append]
    | some text => rw [List.filterMap_cons_some hs, Option.toList_some, List.singleton_append]

theorem sorted_completeAll (h : f.details.Sorted) (steps : List Completion) :
    (f.completeAll steps).details.Sorted := by
  induction steps generalizing f with
  | nil => exact h
  | cons s steps ih => exact ih (sorted_complete h s)

theorem Initial.sorted_completeAll (h : f.Initial) (steps : List Completion) :
    (f.completeAll steps).details.Sorted := by
  refine Fault.sorted_completeAll ?_ steps
  rw [h.details_eq_nil]
  exact List.Pairwise.nil

/-- A name has the value that it was given last. -/
theorem Initial.get?_completeAll (h : f.Initial) (steps : List Completion) :
    (f.completeAll steps).details.get? = lastValue? steps := by
  funext name
  rw [Fault.get?_completeAll, h.details_eq_nil]
  exact Option.or_none

/-- **Steps in another order** give the same fault, as long as the codes, the hints and the
values of each name come in the same order. -/
theorem completeAll_eq_of_sameOrder {steps' : List Completion} (hf : f.details.Sorted)
    (h : Completion.SameOrder steps steps') : f.completeAll steps' = f.completeAll steps := by
  obtain ⟨hcategory, hmessage, hcause⟩ := about_completeAll f steps
  obtain ⟨hcategory', hmessage', hcause'⟩ := about_completeAll f steps'
  have hcode : (f.completeAll steps').code = (f.completeAll steps).code := by
    rw [code_completeAll, code_completeAll, lastCode?, lastCode?, h.codes]
  have hhints : (f.completeAll steps').hints = (f.completeAll steps).hints := by
    rw [hints_completeAll, hints_completeAll, allHints, allHints, h.hints]
  -- the details are sorted, so they are the same as soon as they are the same map
  have hdetails : (f.completeAll steps').details = (f.completeAll steps).details := by
    refine (Fault.sorted_completeAll hf steps').ext (Fault.sorted_completeAll hf steps) ?_
    intro name
    rw [Fault.get?_completeAll, Fault.get?_completeAll, lastValue?, lastValue?, h.values]
  rw [Fault.mk.injEq]
  exact ⟨hcategory'.trans hcategory.symm, hcode, hmessage'.trans hmessage.symm, hdetails, hhints,
    hcause'.trans hcause.symm⟩

/-! ### What is shown -/

/-- How details are shown on one line, in whatever order they are found. -/
def onOneLine (pairs : List (String × String)) : String :=
  if pairs.isEmpty then "" else " (Context: " ++ (Details.sort pairs).listing ++ ")"

/-- How details are shown on a line each, in whatever order they are found. -/
def onLines (pairs : List (String × String)) : String :=
  String.join ((Details.sort pairs).map fun d => "  " ++ d.1 ++ ": " ++ d.2 ++ "\n")

section Shown

variable {pairs : List (String × String)}

theorem display_eq (hpairs : pairs.Perm f.details) (unique : String) : f.display unique =
    "[" ++ f.code.text unique ++ "] " ++ f.category.name ++ ": " ++ f.message ++
      onOneLine pairs ++ f.cause.elim "" fun cause => "\nCaused by: " ++ cause := by
  have hempty : pairs.isEmpty = f.details.isEmpty := by
    rw [Bool.eq_iff_iff, List.isEmpty_iff, List.isEmpty_iff, ← List.perm_nil, ← List.perm_nil]
    exact ⟨hpairs.symm.trans, hpairs.trans⟩
  rw [display, onOneLine, hempty, Details.sort_eq_of_perm hpairs]
  cases f.cause <;> rfl

theorem report_eq (hpairs : pairs.Perm f.details) (unique : String) : f.report unique =
    "[" ++ f.severity.name ++ "] " ++ f.code.text unique ++ ": " ++ f.message ++ "\n" ++
      onLines pairs ++ (f.cause.elim "" fun cause => "  Caused by: " ++ cause ++ "\n") ++
      String.join (f.hints.map fun hint => "  Hint: " ++ hint ++ "\n") := by
  rw [report, onLines, Details.sort_eq_of_perm hpairs]
  cases f.cause <;> rfl

end Shown

/-- A fault says what the steps say that completed it. -/
structure Reflects (g f : Fault) (steps : List Completion) : Prop where
  /-- Its category stays. -/
  category : g.category = f.category
  /-- How grave it is stays. -/
  severity : g.severity = f.severity
  /-- Its message stays. -/
  message : g.message = f.message
  /-- What it wraps stays. -/
  cause : g.cause = f.cause
  /-- Its code is the one given last, or the one it had. -/
  code : g.code = (lastCode? steps).elim f.code .given
  /-- Each name has the value given last, and no other name has one. -/
  details : ∀ name, g.details.get? name = lastValue? steps name
  /-- Its hints are those it had, and then those given, in order. -/
  hints : g.hints = f.hints ++ allHints steps
  /-- Whatever order the details are found in, they are sorted before they are shown. -/
  sorted : ∀ pairs, Details.Enumerates pairs (lastValue? steps) →
    g.details = Details.sort pairs ∧ (Details.sort pairs).Sorted
  /-- On one line it says its code, its category, its message, its details, and its cause. -/
  display : ∀ pairs, Details.Enumerates pairs (lastValue? steps) → ∀ unique, g.display unique =
    "[" ++ g.code.text unique ++ "] " ++ f.category.name ++ ": " ++ f.message ++
      onOneLine pairs ++ f.cause.elim "" fun cause => "\nCaused by: " ++ cause
  /-- Over several lines it says how grave it is, its code, its message, and on lines of their
  own its details, its cause, and its hints. -/
  report : ∀ pairs, Details.Enumerates pairs (lastValue? steps) → ∀ unique, g.report unique =
    "[" ++ f.severity.name ++ "] " ++ g.code.text unique ++ ": " ++ f.message ++ "\n" ++
      onLines pairs ++ (f.cause.elim "" fun cause => "  Caused by: " ++ cause ++ "\n") ++
      String.join ((f.hints ++ allHints steps).map fun hint => "  Hint: " ++ hint ++ "\n")
  /-- It is shown the same with its details in any order. -/
  anyOrder : ∀ pairs, Details.Enumerates pairs (lastValue? steps) → ∀ unique,
    { g with details := pairs }.display unique = g.display unique ∧
      { g with details := pairs }.report unique = g.report unique

/-- **A completed fault says what its steps say**, however many there are and in which order
they come, and it is shown the same whatever order its details are found in.  In another
order the steps give the same fault and the same texts, as long as the codes, the hints and
the values of each name come in the same order. -/
theorem reflects_completeAll (h : f.Initial) (steps : List Completion) :
    (f.completeAll steps).Reflects f steps ∧
      ∀ steps', Completion.SameOrder steps steps' →
        f.completeAll steps' = f.completeAll steps ∧ ∀ unique,
          (f.completeAll steps').display unique = (f.completeAll steps).display unique ∧
          (f.completeAll steps').report unique = (f.completeAll steps).report unique := by
  have hsorted := h.sorted_completeAll steps
  have hget := h.get?_completeAll steps
  have hhints := hints_completeAll f steps
  obtain ⟨hcategory, hmessage, hcause⟩ := about_completeAll f steps
  have hseverity : (f.completeAll steps).severity = f.severity := by
    rw [severity, hcategory, ← severity]
  -- the details that are kept are one of the orders in which they can be found
  have hperm : ∀ {pairs}, Details.Enumerates pairs (lastValue? steps) →
      pairs.Perm (f.completeAll steps).details :=
    fun hpairs => hpairs.perm (hget ▸ hsorted.enumerates)
  refine ⟨⟨hcategory, hseverity, hmessage, hcause, code_completeAll f steps, congrFun hget, hhints,
    ?_, ?_, ?_, ?_⟩, ?_⟩
  · intro pairs hpairs
    have heq := Details.sort_eq hsorted (hget ▸ hpairs)
    exact ⟨heq.symm, heq.symm ▸ hsorted⟩
  · intro pairs hpairs unique
    rw [display_eq (hperm hpairs), hcategory, hmessage, hcause]
  · intro pairs hpairs unique
    rw [report_eq (hperm hpairs), hseverity, hmessage, hcause, hhints]
  · intro pairs hpairs unique
    rw [display_eq (hperm hpairs), report_eq (hperm hpairs)]
    exact ⟨display_eq (.refl _) unique, report_eq (.refl _) unique⟩
  · intro steps' hsame
    have hf : f.details.Sorted := by
      rw [h.details_eq_nil]
      exact List.Pairwise.nil
    have heq := completeAll_eq_of_sameOrder hf hsame
    rw [heq]
    exact ⟨rfl, fun unique => ⟨rfl, rfl⟩⟩

/-- A failure of the file system, before it is completed. -/
def unreachable : Fault := ofIo "timed out"

/-- Steps that give a name two values and a code twice. -/
def retries : List Completion :=
  [ .detail "url" "x.cwl"
  , .code "AP-FETCH-001"
  , .detail "attempt" "1"
  , .hint "try again"
  , .code "AP-FETCH-002"
  , .detail "attempt" "2" ]

/-- The same steps in another order. -/
def retriesByKind : List Completion :=
  [ .code "AP-FETCH-001"
  , .code "AP-FETCH-002"
  , .hint "try again"
  , .detail "attempt" "1"
  , .detail "attempt" "2"
  , .detail "url" "x.cwl" ]

theorem sameOrder_retriesByKind : Completion.SameOrder retries retriesByKind := by
  refine ⟨by decide, by decide, fun name => ?_⟩
  by_cases hurl : name = "url"
  · subst hurl
    decide
  · simp [retries, retriesByKind, Completion.value?, List.filterMap_cons, hurl]

theorem enumerates_retries :
    Details.Enumerates [("url", "x.cwl"), ("attempt", "2")] (lastValue? retries) := by
  refine ⟨by decide, fun name value => ?_⟩
  have hlast : lastValue? retries name =
      if name = "url" then some "x.cwl" else if name = "attempt" then some "2" else none := by
    by_cases hurl : name = "url"
    · subst hurl
      rfl
    · by_cases hattempt : name = "attempt"
      · subst hattempt
        rfl
      · simp [lastValue?, retries, Completion.value?, List.filterMap_cons, hurl, hattempt]
  rw [hlast, List.mem_cons, List.mem_singleton, Prod.mk.injEq, Prod.mk.injEq]
  split_ifs with hurl hattempt
  · simp [hurl, eq_comm]
  · simp [hattempt, eq_comm]
  · simp [hurl, hattempt]

theorem reflects_completeAll_retries :
    Initial unreachable ∧ Completion.SameOrder retries retriesByKind ∧
      (unreachable.completeAll retriesByKind).details =
        Details.sort [("url", "x.cwl"), ("attempt", "2")] ∧
      (unreachable.completeAll retriesByKind).display "" =
        "[AP-FETCH-002] IoError: timed out (Context: [(\"attempt\", \"2\"), " ++
          "(\"url\", \"x.cwl\")])\nCaused by: timed out" := by
  have hinitial : Initial unreachable := .io "timed out"
  obtain ⟨hreflects, hsame⟩ := reflects_completeAll hinitial retries
  obtain ⟨heq, htexts⟩ := hsame retriesByKind sameOrder_retriesByKind
  refine ⟨hinitial, sameOrder_retriesByKind, ?_, ?_⟩
  · rw [heq]
    exact (hreflects.sorted _ enumerates_retries).1
  · rw [(htexts "").1]
    decide +kernel

end Fault

end CwlCompliance
