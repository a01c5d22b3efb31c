import CwlCompliance.Proofs.Json.RoundTrip
import CwlCompliance.Report.Json
import Mathlib.Data.List.Forall2

/-!
# Reports are read back

A report as JSON loses nothing.  It can be read back whatever was recorded in it and whatever
characters its texts hold, so reports that differ in anything have different texts.

A text does not tell a code that was given from one that was made up.  So a report is read back
with its codes spelled out, as its text has them.

## Main definitions

* `Json.Value.get?`, `Json.Value.field?` — the members of an object.
* `Issue.ofJson?`, `Failure.ofJson?`, `Outcome.ofJson?`, `Report.ofJson?` — what a value says.
* `Report.read?` — the report that a text writes, with the time at which it was made.
* `Report.spelledOut` — a report with its codes spelled out.

## Main results

* `Report.ofJson?_toJson` — a value says what the report holds from which it was made.
* `Report.lossless_render` — **a report is read back from its text**.
-/

namespace CwlCompliance

namespace Json.Value

/-! ### Parts of a value -/

/-- The value of a member of an object. -/
def get? (k : String) : Value → Option Value
  | object fs => fs.lookup k
  | _ => none

/-- What `f` reads from the value of a member. -/
def field? {α : Type} (k : String) (f : Value → Option α) (v : Value) : Option α :=
  (v.get? k).bind f

/-- The characters of a string. -/
def asString? : Value → Option String
  | string s => some s
  | _ => none

/-- A number. -/
def asInteger? : Value → Option Int
  | integer i => some i
  | _ => none

/-- A truth value. -/
def asBool? : Value → Option Bool
  | bool b => some b
  | _ => none

/-- What `f` reads from the items of an array. -/
def asArray? {α : Type} (f : Value → Option α) : Value → Option (List α)
  | array vs => vs.mapM f
  | _ => none

/-- Nothing if the value is null, else what `f` reads from it. -/
def orNull? {α : Type} (f : Value → Option α) : Value → Option (Option α)
  | null => some none
  | v => (f v).map some

theorem asArray?_map {α β : Type} {f : Value → Option β} {g : α → Value} {h : α → β}
    (hg : ∀ a, f (g a) = some (h a)) (l : List α) :
    asArray? f (array (l.map g)) = some (l.map h) := by
  rw [asArray?, List.mapM_map]
  induction l with
  | nil => rfl
  | cons a l ih => simp [hg, ih]

theorem asArray?_map_self {α : Type} {f : Value → Option α} {g : α → Value}
    (hg : ∀ a, f (g a) = some a) (l : List α) : asArray? f (array (l.map g)) = some l := by
  rw [asArray?_map hg, List.map_id']

end Json.Value

open Json (Value)
open Json.Value (asString? asInteger? asBool? asArray? orNull?)

/-! ### What a value says -/

/-- The rule with exactly this name. -/
def Rule.ofName? (s : String) : Option Rule := Rule.all.find? fun r => r.name == s

/-- The severity with exactly this name. -/
def IssueSeverity.ofName? (s : String) : Option IssueSeverity :=
  [IssueSeverity.error, .hint].find? fun severity => severity.name == s

/-- The rule that a value names. -/
def Rule.ofJson? (v : Value) : Option Rule := v.asString?.bind Rule.ofName?

/-- The issue that a value says. -/
def Issue.ofJson? (v : Value) : Option Issue := do
  let rule ← v.field? "rule" Rule.ofJson?
  let severity ← v.field? "severity" asString?
  let severity ← IssueSeverity.ofName? severity
  let message ← v.field? "message" asString?
  return ⟨rule, severity, message⟩

/-- The failure that a value says; without names if the value has none. -/
def Failure.ofJson? (v : Value) : Option Failure := do
  let code ← v.field? "code" asString?
  let message ← v.field? "message" asString?
  let nodes ← match v.get? "nodes" with
    | none => some []
    | some names => asArray? asString? names
  return ⟨.given code, message, nodes⟩

/-- What a structural validator said by a value. -/
def Outcome.ofJson? (v : Value) : Option Outcome := do
  let exitCode ← v.field? "exit_code" asInteger?
  let stdout ← v.field? "stdout" asString?
  let stderr ← v.field? "stderr" asString?
  return ⟨exitCode, stdout, stderr⟩

namespace Report

/-- The report that a value says, and the time at which it was made. -/
def ofJson? (v : Value) : Option (Report × String) := do
  let source ← v.field? "source" asString?
  let entryPoint ← v.field? "entry_point" (orNull? asString?)
  let digest ← v.field? "source_sha256" asString?
  let time ← v.field? "generated_at" asString?
  let rules ← v.field? "rules" (asArray? Rule.ofJson?)
  let issues ← v.field? "issues" (asArray? Issue.ofJson?)
  let blocking ← v.field? "blocking" (asArray? Failure.ofJson?)
  let structural ← v.field? "structural" (orNull? Outcome.ofJson?)
  let valid ← v.field? "valid" asBool?
  return ({ source, entryPoint, digest, rules, issues, blocking, structural, valid }, time)

/-- The report that a text writes, and the time at which it was made. -/
def read? (s : String) : Option (Report × String) := (Json.read? s).bind ofJson?

end Report

/-- A failure with its code spelled out. -/
def Failure.spelledOut (unique : String) (f : Failure) : Failure :=
  { f with code := .given (f.code.text unique) }

/-- A report with its codes spelled out; all else stays as it is. -/
def Report.spelledOut (unique : String) (r : Report) : Report :=
  { r with blocking := r.blocking.map (Failure.spelledOut unique) }

/-! ### Reading back the parts of a report -/

theorem Rule.ofName?_name (r : Rule) : Rule.ofName? r.name = some r := by
  cases r <;> decide +kernel

theorem IssueSeverity.ofName?_name (s : IssueSeverity) : IssueSeverity.ofName? s.name = some s := by
  cases s <;> decide +kernel

theorem Issue.ofJson?_toJson (i : Issue) : Issue.ofJson? i.toJson = some i := by
  have hrule : i.toJson.field? "rule" Rule.ofJson? = some i.rule :=
    i.rule.ofName?_name
  have hseverity : i.toJson.field? "severity" asString? = some i.severity.name := rfl
  have hmessage : i.toJson.field? "message" asString? = some i.message := rfl
  rw [Issue.ofJson?, hrule, hseverity, hmessage]
  simp only [Option.bind_eq_bind, Option.bind_some, IssueSeverity.ofName?_name]
  rfl

theorem Outcome.ofJson?_toJson (o : Outcome) : Outcome.ofJson? o.toJson = some o := rfl

/-- The names are left out of a failure when there are none. -/
theorem Failure.get?_nodes_toJson (unique : String) (f : Failure) :
    (f.toJson unique).get? "nodes" =
      if f.nodes = [] then none else some (.array (f.nodes.map .string)) := by
  by_cases h : f.nodes = []
  · rw [Failure.toJson, h]
    rfl
  · have hempty : f.nodes.isEmpty = false := by simpa using h
    rw [Failure.toJson, hempty, if_neg h]
    rfl

theorem Failure.ofJson?_toJson (unique : String) (f : Failure) :
    Failure.ofJson? (f.toJson unique) = some (f.spelledOut unique) := by
  have hcode : (f.toJson unique).field? "code" asString? = some (f.code.text unique) := rfl
  have hmessage : (f.toJson unique).field? "message" asString? = some f.message := rfl
  have hnames : asArray? asString? (.array (f.nodes.map .string)) = some f.nodes :=
    Json.Value.asArray?_map_self (g := .string) (fun _ => rfl) f.nodes
  rw [Failure.ofJson?, hcode, hmessage, f.get?_nodes_toJson]
  by_cases h : f.nodes = []
  · rw [if_pos h, Failure.spelledOut, h]
    rfl
  · rw [if_neg h]
    simp only [Option.bind_eq_bind, Option.bind_some, hnames]
    rfl

namespace Report

/-- A value says what the report holds from which it was made. -/
theorem ofJson?_toJson (unique time : String) (r : Report) :
    ofJson? (r.toJson unique time) = some (r.spelledOut unique, time) := by
  have hentry : (r.toJson unique time).field? "entry_point" (orNull? asString?) =
      some r.entryPoint := by
    show orNull? asString? (.ofText? r.entryPoint) = _
    cases r.entryPoint <;> rfl
  have hrules : (r.toJson unique time).field? "rules" (asArray? Rule.ofJson?) = some r.rules :=
    Json.Value.asArray?_map_self Rule.ofName?_name r.rules
  have hissues : (r.toJson unique time).field? "issues" (asArray? Issue.ofJson?) =
      some r.issues :=
    Json.Value.asArray?_map_self Issue.ofJson?_toJson r.issues
  have hblocking : (r.toJson unique time).field? "blocking" (asArray? Failure.ofJson?) =
      some (r.blocking.map (Failure.spelledOut unique)) :=
    Json.Value.asArray?_map (Failure.ofJson?_toJson unique) r.blocking
  have hstructural : (r.toJson unique time).field? "structural" (orNull? Outcome.ofJson?) =
      some r.structural := by
    show orNull? Outcome.ofJson? ((r.structural.map Outcome.toJson).getD .null) = _
    cases r.structural with
    | none => rfl
    | some o => exact congrArg (Option.map some) o.ofJson?_toJson
  have hsource : (r.toJson unique time).field? "source" asString? = some r.source := rfl
  have hdigest : (r.toJson unique time).field? "source_sha256" asString? = some r.digest := rfl
  have htime : (r.toJson unique time).field? "generated_at" asString? = some time := rfl
  have hvalid : (r.toJson unique time).field? "valid" asBool? = some r.valid := rfl
  rw [ofJson?, hsource, hentry, hdigest, htime, hrules, hissues, hblocking, hstructural, hvalid]
  rfl

/-- The members that tell whether something is there: the entry point and what the structural
validator said are null when they are not there, and names that a failure does not have
are left out. -/
structure TellsAbsence (r : Report) (v : Value) : Prop where
  /-- The entry point is null when none was asked for. -/
  entryPoint : v.get? "entry_point" = some .null ↔ r.entryPoint = none
  /-- What the structural validator said is null when it said nothing. -/
  structural : v.get? "structural" = some .null ↔ r.structural = none
  /-- The failures are there in order, each with its names unless it has none. -/
  blocking : ∃ items, v.get? "blocking" = some (.array items) ∧
    List.Forall₂ (fun f item => item.get? "nodes" = none ↔ f.nodes = []) r.blocking items

theorem tellsAbsence_toJson (unique time : String) (r : Report) :
    r.TellsAbsence (r.toJson unique time) := by
  refine ⟨?_, ?_, r.blocking.map (Failure.toJson unique), rfl, ?_⟩
  · show some (Value.ofText? r.entryPoint) = some .null ↔ _
    cases r.entryPoint <;> simp [Value.ofText?]
  · show some ((r.structural.map Outcome.toJson).getD .null) = some .null ↔ _
    cases r.structural <;> simp [Outcome.toJson]
  · rw [List.forall₂_map_right_iff, List.forall₂_same]
    intro f _
    rw [f.get?_nodes_toJson]
    split <;> simp_all

/-- Codes that are spelled out already are written as they are. -/
theorem toJson_spelledOut (unique unique' time : String) (r : Report) :
    (r.spelledOut unique).toJson unique' time = r.toJson unique time := by
  have hblocking : (r.spelledOut unique).blocking.map (Failure.toJson unique') =
      r.blocking.map (Failure.toJson unique) := by
    rw [spelledOut, List.map_map]
    rfl
  rw [toJson, toJson, hblocking]
  rfl

/-- The text of a report is the text of one value, which says what the report holds. -/
theorem read?_render (unique time : String) (r : Report) :
    read? (r.render unique time .json) = some (r.spelledOut unique, time) := by
  rw [read?, render, Json.read?_pretty, Option.bind_some]
  exact ofJson?_toJson unique time r

/-- **A report is read back from its text**: all its fields, with the rules, the issues and the
failures in order, and the time at which it was made.  What is not there is null or left out.  So
two reports have the same text only if they hold the same. -/
theorem lossless_render (unique time : String) (r : Report) :
    read? (r.render unique time .json) = some (r.spelledOut unique, time) ∧
      (∃ v, Json.read? (r.render unique time .json) = some v ∧ r.TellsAbsence v) ∧
      ∀ (unique' time' : String) (r' : Report),
        r.render unique time .json = r'.render unique' time' .json ↔
          r.spelledOut unique = r'.spelledOut unique' ∧ time = time' := by
  refine ⟨read?_render unique time r, ⟨_, Json.read?_pretty _, tellsAbsence_toJson ..⟩, ?_⟩
  intro unique' time' r'
  constructor
  · intro h
    -- the same text is read as the same report
    have hread := read?_render unique time r
    rw [h, read?_render unique' time' r', Option.some.injEq, Prod.mk.injEq] at hread
    exact ⟨hread.1.symm, hread.2.symm⟩
  · rintro ⟨hreport, rfl⟩
    rw [render, render, ← toJson_spelledOut unique "" time r, hreport, toJson_spelledOut]

end Report

end CwlCompliance
