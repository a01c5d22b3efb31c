import CwlCompliance.Proofs.Report.History
import CwlCompliance.Proofs.Text.Blank
import CwlCompliance.Report.Text

/-!
# The text of a report, piece by piece

The text of a report is put together from pieces: lines of its own, what a validator
printed, headings of rules, issues, and what blocks the package.  Each piece has a text that
depends on nothing else, so that a report prints a list of pieces, and what it prints about
its history can be read off that list: nothing that was recorded is left out, nothing is
printed twice, and everything stands where it belongs.

## Main definitions

* `Report.Piece`, `Report.Piece.text` — a piece, and how it is printed.
* `Report.Printout`, `Report.printout` — the pieces by section, and those of a report.
* `Report.Prints` — what is printed of a history.

## Main results

* `Report.header_eq`, `Report.structuralSection_eq`, `Report.ruleSection_eq`,
  `Report.blockingSection_eq`, `Report.verdictLine_eq` — the sections are those of the pieces.
* `Report.text_eq` — the text of a report is that of its pieces.
* `Report.headings_printout`, `Report.issues_printout`, `Report.failures_printout`,
  `Report.nodes_printout` — what stands among the pieces.
* `Report.prints_recordAll` — **a report prints its history**, whatever was recorded.
-/

namespace CwlCompliance

open Recording (allIssues allFailures lastOutcome?)

/-- What a validator printed, by stream, but for streams on which there is only white space. -/
def Outcome.streams (o : Outcome) : List (String × String) :=
  [("stdout", o.stdout), ("stderr", o.stderr)].filter fun s => ¬Text.Blank s.2

namespace Report

/-! ### Pieces -/

/-- A piece of the text of a report. -/
inductive Piece where
  /-- A line that says what it says. -/
  | line (s : String)
  /-- That no structural validator ran. -/
  | skipped
  /-- That a structural validator ran, whether it accepted the document, and its exit code. -/
  | ran (accepted : Bool) (exitCode : Int)
  /-- What a validator printed on a stream. -/
  | stream (name text : String)
  /-- The heading of a rule. -/
  | heading (passed : Bool) (rule : Rule)
  /-- An issue. -/
  | issue (i : Issue)
  /-- Something that blocks the package. -/
  | failure (code : Code) (message : String)
  /-- The name of a process that blocks the package. -/
  | node (name : String)
  /-- The verdict. -/
  | verdict (compliant : Bool)
  deriving DecidableEq, Repr

namespace Piece

/-- How a piece is printed; `unique` completes codes that were made up. -/
def text (unique : String) : Piece → String
  | line s => s ++ "\n"
  | skipped => "Structural validation: skipped\n"
  | ran accepted exitCode => "Structural validation: " ++
      (if accepted then "passed" else "failed") ++ " (exit code " ++ toString exitCode ++ ")\n"
  | stream name text => "--- " ++ name ++ " ---\n" ++ text ++
      (if text.toList.getLast? = some '\n' then "" else "\n")
  | heading passed rule => (if passed then "PASS " else "FAIL ") ++ rule.name ++ "\n"
  | issue i => "  " ++ i.severity.name ++ ": " ++ i.message ++ "\n"
  | failure code message => "  [" ++ code.text unique ++ "] " ++ message ++ "\n"
  | node name => "    - " ++ name ++ "\n"
  | verdict compliant => if compliant then "Result: COMPLIANT\n" else "Result: NOT COMPLIANT\n"

/-- The verdict on a rule, and the rule, if the piece is the heading of one. -/
def heading? : Piece → Option (Bool × Rule)
  | heading passed rule => some (passed, rule)
  | _ => none

/-- The issue that is printed. -/
def issue? : Piece → Option Issue
  | issue i => some i
  | _ => none

/-- The code and the message of what blocks the package. -/
def failure? : Piece → Option (Code × String)
  | failure code message => some (code, message)
  | _ => none

/-- The name that is printed of a process that blocks the package. -/
def node? : Piece → Option String
  | node name => some name
  | _ => none

/-- The text of pieces, one after the other. -/
def texts (unique : String) (ps : List Piece) : String := String.join (ps.map (text unique))

variable {unique : String}

theorem text_line (s : String) : (line s).text unique = s ++ "\n" := rfl

theorem text_stream (name text : String) : (stream name text).text unique =
    "--- " ++ name ++ " ---\n" ++ text ++
      if text.toList.getLast? = some '\n' then "" else "\n" := rfl

theorem text_verdict (compliant : Bool) : (verdict compliant).text unique =
    if compliant then "Result: COMPLIANT\n" else "Result: NOT COMPLIANT\n" := rfl

@[simp] theorem texts_nil : texts unique [] = "" := rfl

@[simp] theorem texts_cons (p : Piece) (ps : List Piece) :
    texts unique (p :: ps) = p.text unique ++ texts unique ps := String.join_cons

@[simp] theorem texts_append (ps qs : List Piece) :
    texts unique (ps ++ qs) = texts unique ps ++ texts unique qs := by
  rw [texts, List.map_append, String.join_append]
  rfl

theorem texts_flatMap {α : Type*} (f : α → List Piece) (l : List α) :
    texts unique (l.flatMap f) = String.join (l.map fun a => texts unique (f a)) := by
  induction l with
  | nil => rfl
  | cons a l ih => rw [List.flatMap_cons, texts_append, ih, List.map_cons, String.join_cons]

end Piece

open Piece (texts)

/-- The pieces of the text of a report by section. -/
structure Printout where
  /-- What the report is about. -/
  header : List Piece
  /-- What the structural validator said. -/
  structural : List Piece
  /-- The rules with their issues. -/
  rules : List Piece
  /-- What blocks the package. -/
  blocking : List Piece
  /-- The verdict. -/
  verdict : List Piece
  deriving DecidableEq, Repr

/-- All pieces; empty lines stand around the structural section and before the verdict. -/
def Printout.pieces (s : Printout) : List Piece :=
  s.header ++ .line "" :: s.structural ++ .line "" :: s.rules ++ s.blocking ++ .line "" :: s.verdict

/-- The pieces about what the structural validator said, if it ran. -/
def structuralPieces : Option Outcome → List Piece
  | none => [.skipped]
  | some o => .ran o.isValid o.exitCode :: o.streams.map fun s => .stream s.1 s.2

/-- The pieces about a rule. -/
def rulePieces (passed : Bool) (rule : Rule) (issues : List Issue) : List Piece :=
  .heading passed rule :: issues.map .issue

/-- The pieces about something that blocks the package. -/
def failurePieces (f : Failure) : List Piece := .failure f.code f.message :: f.nodes.map .node

/-- The pieces about what blocks the package, if anything does. -/
def blockingPieces (failures : List Failure) : List Piece :=
  if failures = [] then []
  else .line "" :: .line "Blocking failures:" :: failures.flatMap failurePieces

/-- The pieces of the text of a report. -/
def printout (r : Report) : Printout where
  header :=
    [ .line "Application Package validation report"
    , .line ("Source: " ++ r.source)
    , .line ("Entry point: " ++ r.entryPoint.getD "(all workflows)")
    , .line ("SHA-256: " ++ r.digest) ]
  structural := structuralPieces r.structural
  rules := r.grouped.flatMap fun x => rulePieces (r.passed x.1) x.1 x.2
  blocking := blockingPieces r.blocking
  verdict := [.verdict r.isValid]

/-! ### The sections -/

variable (unique : String) (r : Report)

theorem header_eq : r.header = texts unique r.printout.header := by
  -- the section joins the end of a line to the start of the next one
  have htitle : "Application Package validation report\nSource: " =
      "Application Package validation report" ++ ("\n" ++ "Source: ") := by decide
  have hentry : "\nEntry point: " = "\n" ++ "Entry point: " := by decide
  have hdigest : "\nSHA-256: " = "\n" ++ "SHA-256: " := by decide
  show "Application Package validation report\nSource: " ++ r.source ++ "\nEntry point: " ++
    r.entryPoint.getD "(all workflows)" ++ "\nSHA-256: " ++ r.digest ++ "\n" = _
  simp only [printout, htitle, hentry, hdigest, Piece.texts_cons, Piece.texts_nil,
    Piece.text_line, String.append_assoc, String.append_empty]

/-- Ending the last line of a text adds nothing to the text but a newline where it has none. -/
theorem endLine_eq (s : String) :
    endLine s = s ++ if s.toList.getLast? = some '\n' then "" else "\n" := by
  rw [endLine]
  split
  · exact String.append_empty.symm
  · rfl

theorem streamSection_eq (name text : String) : streamSection name text =
    texts unique (if Text.Blank text then [] else [.stream name text]) := by
  rw [streamSection]
  by_cases hblank : Text.Blank text
  · rw [if_pos hblank, if_pos (Text.isBlank_iff.mpr hblank)]
    rfl
  · rw [if_neg hblank, if_neg (mt Text.isBlank_iff.mp hblank)]
    simp only [Piece.texts_cons, Piece.texts_nil, Piece.text_stream, endLine_eq,
      String.append_empty, String.append_assoc]

theorem reportSection_eq (o : Outcome) : o.reportSection = texts unique
    (structuralPieces (some o)) := by
  have hstreams : o.streams.map (fun s => Piece.stream s.1 s.2) =
      (if Text.Blank o.stdout then [] else [.stream "stdout" o.stdout]) ++
        if Text.Blank o.stderr then [] else [.stream "stderr" o.stderr] := by
    rw [Outcome.streams]
    by_cases hout : Text.Blank o.stdout <;> by_cases herr : Text.Blank o.stderr <;>
      simp [hout, herr]
  rw [structuralPieces, hstreams, Piece.texts_cons, Piece.texts_append, ← streamSection_eq,
    ← streamSection_eq, ← String.append_assoc]
  rfl

theorem structuralSection_eq : r.structuralSection = texts unique r.printout.structural := by
  rw [structuralSection, printout]
  cases r.structural with
  | none => exact String.append_empty.symm
  | some o => exact reportSection_eq unique o

theorem ruleListing_eq (passed : Bool) (rule : Rule) (issues : List Issue) :
    ruleListing passed rule issues = texts unique (rulePieces passed rule issues) := by
  have hheading : rule.heading passed = (Piece.heading passed rule).text unique := by
    cases passed <;> rfl
  rw [ruleListing, rulePieces, Piece.texts_cons, ← hheading, texts, List.map_map]
  rfl

theorem ruleSection_eq : r.ruleSection = texts unique r.printout.rules := by
  rw [ruleSection, printout, Piece.texts_flatMap]
  simp only [ruleListing_eq unique]

theorem listing_failure_eq (f : Failure) : f.listing unique = texts unique (failurePieces f) := by
  rw [Failure.listing, failurePieces, Piece.texts_cons, texts, List.map_map]
  rfl

theorem blockingSection_eq : r.blockingSection unique = texts unique r.printout.blocking := by
  have hlisting : (Failure.listing unique) = fun f => texts unique (failurePieces f) :=
    funext (listing_failure_eq unique)
  rw [blockingSection, printout, blockingPieces, hlisting]
  simp only [List.isEmpty_iff]
  split
  · rfl
  · rw [Piece.texts_cons, Piece.texts_cons, Piece.texts_flatMap, ← String.append_assoc]
    rfl

theorem verdictLine_eq : r.verdictLine = texts unique r.printout.verdict := by
  rw [verdictLine, printout, Piece.texts_cons, Piece.texts_nil, String.append_empty,
    Piece.text_verdict]
  cases r.isValid <;> rfl

/-- The text of a report is that of its pieces, one after the other. -/
theorem text_eq : r.text unique = texts unique r.printout.pieces := by
  have hempty : (Piece.line "").text unique = "\n" := rfl
  simp only [text, header_eq unique, structuralSection_eq unique, ruleSection_eq unique,
    blockingSection_eq unique, verdictLine_eq unique, Printout.pieces, Piece.texts_append,
    Piece.texts_cons, hempty, String.append_assoc]

/-! ### What stands among the pieces -/

section Among

open Piece (heading? issue? failure? node?)

variable {α : Type*} {r : Report}

theorem filterMap_rulePieces (f : Piece → Option α) (passed : Bool) (rule : Rule)
    (issues : List Issue) : (rulePieces passed rule issues).filterMap f =
      (f (.heading passed rule)).toList ++ issues.filterMap fun i => f (.issue i) := by
  rw [rulePieces, List.filterMap_cons, List.filterMap_map]
  cases f (.heading passed rule) <;> rfl

theorem filterMap_failurePieces (f : Piece → Option α) (b : Failure) :
    (failurePieces b).filterMap f =
      (f (.failure b.code b.message)).toList ++ b.nodes.filterMap fun n => f (.node n) := by
  rw [failurePieces, List.filterMap_cons, List.filterMap_map]
  cases f (.failure b.code b.message) <;> rfl

/-- What is neither a line of the text nor about the structural validator nor the verdict
stands in the sections about the rules and about what blocks the package. -/
theorem filterMap_pieces {f : Piece → Option α} (hline : ∀ s, f (.line s) = none)
    (hskipped : f .skipped = none) (hran : ∀ b n, f (.ran b n) = none)
    (hstream : ∀ s t, f (.stream s t) = none) (hverdict : ∀ b, f (.verdict b) = none) :
    r.printout.pieces.filterMap f =
      (r.grouped.flatMap fun x => (rulePieces (r.passed x.1) x.1 x.2).filterMap f) ++
        r.blocking.flatMap fun b => (failurePieces b).filterMap f := by
  have hheader : r.printout.header.filterMap f = [] := by simp [printout, hline]
  have hstructural : r.printout.structural.filterMap f = [] := by
    rw [printout]
    cases r.structural with
    | none => simp [structuralPieces, hskipped]
    | some o => simp [structuralPieces, hran, hstream]
  -- the section starts with two lines, but only if something blocks the package
  have hblocking : r.printout.blocking.filterMap f =
      r.blocking.flatMap fun b => (failurePieces b).filterMap f := by
    rw [printout]
    show (blockingPieces r.blocking).filterMap f = _
    rw [blockingPieces]
    split
    · next h => rw [h, List.filterMap_nil, List.flatMap_nil]
    · rw [List.filterMap_cons_none (hline _), List.filterMap_cons_none (hline _),
        List.filterMap_flatMap]
  have hlast : r.printout.verdict.filterMap f = [] := by simp [printout, hverdict]
  have hrules : r.printout.rules.filterMap f =
      r.grouped.flatMap fun x => (rulePieces (r.passed x.1) x.1 x.2).filterMap f :=
    List.filterMap_flatMap
  simp [Printout.pieces, hheader, hstructural, hrules, hblocking, hlast, hline]

/-- **There is one heading for each rule that is listed**, with the verdict on the rule. -/
theorem headings_printout (r : Report) :
    r.printout.pieces.filterMap heading? = r.grouped.map fun x => (r.passed x.1, x.1) := by
  rw [filterMap_pieces (fun _ => rfl) rfl (fun _ _ => rfl) (fun _ _ => rfl) fun _ => rfl]
  simp [filterMap_rulePieces, filterMap_failurePieces, heading?, List.map_eq_flatMap]

/-- **Every issue that is listed is printed**, in its place and no other. -/
theorem issues_printout (r : Report) :
    r.printout.pieces.filterMap issue? = r.grouped.flatMap Prod.snd := by
  rw [filterMap_pieces (fun _ => rfl) rfl (fun _ _ => rfl) (fun _ _ => rfl) fun _ => rfl]
  simp [filterMap_rulePieces, filterMap_failurePieces, issue?]

/-- What blocks the package is printed in order. -/
theorem failures_printout (r : Report) :
    r.printout.pieces.filterMap failure? = r.blocking.map fun f => (f.code, f.message) := by
  rw [filterMap_pieces (fun _ => rfl) rfl (fun _ _ => rfl) (fun _ _ => rfl) fun _ => rfl]
  simp [filterMap_rulePieces, filterMap_failurePieces, failure?, List.map_eq_flatMap]

/-- And so are the names of the processes that do. -/
theorem nodes_printout (r : Report) :
    r.printout.pieces.filterMap node? = r.blocking.flatMap Failure.nodes := by
  rw [filterMap_pieces (fun _ => rfl) rfl (fun _ _ => rfl) (fun _ _ => rfl) fun _ => rfl]
  simp [filterMap_rulePieces, filterMap_failurePieces, node?]

end Among

/-! ### What is printed of a history -/

section History

variable {r : Report} {unique source : String} {p : Package} {entry : Option String}
  {history : List Recording}

theorem passed_eq_true_iff {rule : Rule} :
    r.passed rule = true ↔ ∀ i ∈ r.issues, i.rule = rule → i.severity ≠ .error := by
  simp only [passed, issuesFor, Bool.not_eq_true', List.any_eq_false, List.mem_filter,
    decide_eq_true_eq, isError_iff, and_imp, ne_eq]

/-- Every rule that is listed has passed when no issue is an error: an issue that is one
stands under its rule, and this rule is listed. -/
theorem forall_headings_iff : (∀ h ∈ r.printout.pieces.filterMap Piece.heading?, h.1 = true) ↔
    ∀ i ∈ r.issues, i.severity ≠ .error := by
  have hlisted : (∀ h ∈ r.printout.pieces.filterMap Piece.heading?, h.1 = true) ↔
      ∀ rule ∈ r.listed, r.passed rule = true := by
    rw [headings_printout, List.forall_mem_map, ← map_fst_grouped, List.forall_mem_map]
  rw [hlisted]
  constructor
  · -- an issue that no rule recorded still has a heading: the one of the rule that it names
    intro h i hi
    exact passed_eq_true_iff.mp (h i.rule (mem_listed_of_mem_issues hi)) i hi rfl
  · intro h rule _
    exact passed_eq_true_iff.mpr fun i hi _ => h i hi

/-- The header stays as it is whatever is recorded. -/
theorem header_printout_recordAll (r : Report) (history : List Recording) :
    (r.recordAll history).printout.header = r.printout.header := by
  induction history generalizing r with
  | nil => rfl
  | cons s history ih =>
    have hstep : (r.record s).printout.header = r.printout.header := by cases s <;> rfl
    exact (ih (r.record s)).trans hstep

/-- What is printed of a history. -/
structure Prints (r : Report) (unique source : String) (p : Package) (entry : Option String)
    (history : List Recording) : Prop where
  /-- The text is that of the pieces, one after the other. -/
  text : r.text unique = texts unique r.printout.pieces
  /-- The header says what the report is about. -/
  header : r.printout.header =
    [ .line "Application Package validation report"
    , .line ("Source: " ++ source)
    , .line ("Entry point: " ++ entry.getD "(all workflows)")
    , .line ("SHA-256: " ++ Sha256.hex (Utf8.encode p.text)) ]
  /-- Without a structural validator its section says that there was none. -/
  skipped : lastOutcome? history = none → r.printout.structural = [.skipped]
  /-- Else it says what was recorded last, with what the validator printed, unless that is
  blank, on each stream. -/
  ran : ∀ o, lastOutcome? history = some o → r.printout.structural =
    .ran (decide (o.exitCode = 0)) o.exitCode :: o.streams.map fun s => .stream s.1 s.2
  /-- The issues stand under the headings of their rules, in the order in which they were
  recorded. -/
  rules : r.printout.rules = (r.grouped.map Prod.fst).flatMap fun rule =>
    rulePieces (r.passed rule) rule ((allIssues history).filter fun i => i.rule = rule)
  /-- There is one heading for each rule that is listed, -/
  headings : r.printout.pieces.filterMap Piece.heading? =
    r.grouped.map fun x => (r.passed x.1, x.1)
  /-- no rule is listed twice, -/
  nodup : (r.grouped.map Prod.fst).Nodup
  /-- and a rule has passed when no error was recorded under it. -/
  passed : ∀ rule, r.passed rule = true ↔
    ∀ i ∈ allIssues history, i.rule = rule → i.severity ≠ .error
  /-- Every issue is printed as often as it was recorded. -/
  issues : (r.printout.pieces.filterMap Piece.issue?).Perm (allIssues history)
  /-- There is a section about what blocks the package if something does, -/
  blocking_eq_nil : r.printout.blocking = [] ↔ allFailures history = []
  /-- with each failure followed by the names of the processes it is about. -/
  blocking : allFailures history ≠ [] → r.printout.blocking =
    .line "" :: .line "Blocking failures:" :: (allFailures history).flatMap failurePieces
  /-- Every failure is printed once and in order, -/
  failures : r.printout.pieces.filterMap Piece.failure? =
    (allFailures history).map fun f => (f.code, f.message)
  /-- and so is every name. -/
  nodes : r.printout.pieces.filterMap Piece.node? = (allFailures history).flatMap Failure.nodes
  /-- The verdict is that of the report. -/
  verdict : r.printout.verdict = [.verdict r.isValid]
  /-- It is what the other sections say. -/
  isValid : r.isValid = true ↔
    (∀ h ∈ r.printout.pieces.filterMap Piece.heading?, h.1 = true) ∧ r.printout.blocking = [] ∧
      (r.printout.structural.head? = some .skipped ∨
        ∃ exitCode, r.printout.structural.head? = some (.ran true exitCode))

theorem blockingPieces_eq_nil {failures : List Failure} :
    blockingPieces failures = [] ↔ failures = [] := by
  rw [blockingPieces]
  split
  · next h => exact iff_of_true rfl h
  · next h => exact iff_of_false (List.cons_ne_nil _ _) h

/-- When the section about the structural validator says that it was skipped or passed. -/
theorem head?_structuralPieces {o? : Option Outcome} :
    ((structuralPieces o?).head? = some .skipped ∨
      ∃ exitCode, (structuralPieces o?).head? = some (.ran true exitCode)) ↔
        ∀ o, o? = some o → o.exitCode = 0 := by
  cases o? with
  | none => simp [structuralPieces]
  | some o => simp [structuralPieces, Outcome.isValid]

/-- **A report prints its history**, whatever was recorded, how often and in which order. -/
theorem prints_recordAll (unique source : String) (p : Package) (entry : Option String)
    (history : List Recording) :
    ((start source p entry).recordAll history).Prints unique source p entry history := by
  set r := (start source p entry).recordAll history with hr
  have hreflects : r.Reflects history := reflects_start source p entry history
  have hissues : r.issues = allIssues history := issues_recordAll_start source p entry
  have hfailures : r.blocking = allFailures history := blocking_recordAll _ history
  have houtcome : r.structural = lastOutcome? history := by
    rw [hr, structural_recordAll]
    exact Option.or_none
  have hstructural : r.printout.structural = structuralPieces (lastOutcome? history) :=
    congrArg structuralPieces houtcome
  have hblocking : r.printout.blocking = blockingPieces (allFailures history) :=
    congrArg blockingPieces hfailures
  refine ⟨text_eq unique r, header_printout_recordAll _ history, ?_, ?_, ?_, headings_printout r,
    hreflects.nodup_listed, ?_, ?_, ?_, ?_, ?_, ?_, rfl, ?_⟩
  · intro hnone
    rw [hstructural, hnone]
    rfl
  · intro o ho
    rw [hstructural, ho]
    rfl
  · rw [List.flatMap_map]
    refine List.flatMap_congr fun x hx => ?_
    rw [(hreflects.under x hx).2]
  · intro rule
    rw [passed_eq_true_iff, hissues]
  · rw [issues_printout]
    exact hreflects.perm
  · rw [hblocking]
    exact blockingPieces_eq_nil
  · intro hne
    rw [hblocking, blockingPieces, if_neg hne]
  · rw [failures_printout, hfailures]
  · rw [nodes_printout, hfailures]
  · rw [forall_headings_iff, hissues, hblocking, blockingPieces_eq_nil, hstructural,
      head?_structuralPieces]
    exact hreflects.isValid

end History

end Report

end CwlCompliance
