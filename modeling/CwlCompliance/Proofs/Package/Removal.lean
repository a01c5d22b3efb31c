import CwlCompliance.Proofs.Package.Transform
import CwlCompliance.Proofs.Process.Change
import CwlCompliance.Proofs.Report.RuleSection

/-!
# Leaving out an attribute

The rules ask a tool for its command and its inputs, a workflow for its title and its description,
each of its inputs for the same two, and a workflow for its metadata.  If one of these is there and
then is left out, in a process in scope, there is one more issue than before, about this process and
this attribute, and nothing else changes.

## Main definitions

* `Attribute` — what may be left out, with `Attribute.Given` and `Attribute.remove`.
* `Attribute.issue` — the issue that it is missing.
* `Package.LeavesOut` — a package without an attribute that another gives to a process in scope.

## Main results

* `Attribute.oneMore_find` — what the rule finds about the process itself.
* `Package.LeavesOut.forall₂_listed`, `Package.LeavesOut.exists_split` — what is selected before
  and after.
* `Package.oneMore_issues_of_leavesOut` — **one attribute less, one issue more.**
-/

namespace CwlCompliance

/-! ### Attributes -/

/-- What a workflow or an input is described by. -/
inductive Description where
  /-- A title. -/
  | label
  /-- A description. -/
  | doc
  deriving DecidableEq, Repr

namespace Description

/-- The name of a part of the description in findings. -/
def name : Description → String
  | label => "label"
  | doc => "doc"

/-- This part of the description of a process. -/
def ofProcess : Description → CwlProcess → Option String
  | label, q => q.label
  | doc, q => q.doc

/-- This part of the description of an input. -/
def ofInput : Description → Input → Option String
  | label, i => i.label
  | doc, i => i.doc

/-- A process without this part of its description. -/
def removeFromProcess : Description → CwlProcess → CwlProcess
  | label, q => { q with label := none }
  | doc, q => { q with doc := none }

/-- An input without this part of its description. -/
def removeFromInput : Description → Input → Input
  | label, i => { i with label := none }
  | doc, i => { i with doc := none }

end Description

/-- A space and a name between quotes or, where there is none or only an empty one, a number. -/
def quotedOr (name : Option String) (number : ℕ) : String :=
  match name with
  | none => " #" ++ toString number
  | some name => if name = "" then " #" ++ toString number else " '" ++ name ++ "'"

/-- A name counts if it is not empty. -/
theorem filter_name {name : String} (h : name ≠ "") :
    (some name).filter (fun s => !s.isEmpty) = some name := by simp [Option.filter, h]

theorem CwlProcess.display_eq_quotedOr (q : CwlProcess) (number : ℕ) :
    q.display number = q.processClass.name ++ quotedOr (q.id.map localName) number := by
  rw [display, properId, localId]
  cases q.id.map localName with
  | none => exact String.append_assoc
  | some name =>
    by_cases hname : name = ""
    · subst hname
      exact String.append_assoc
    · rw [filter_name hname, quotedOr, if_neg hname, ← String.append_assoc, ← String.append_assoc]

theorem Input.display_eq_quotedOr (i : Input) (number : ℕ) :
    i.display number = "input" ++ quotedOr (i.id.map shortName) number := by
  have hnumber : "input #" ++ toString number = "input" ++ (" #" ++ toString number) := by
    rw [← String.append_assoc]
    rfl
  rw [display, properName]
  cases i.id.map shortName with
  | none => exact hnumber
  | some name =>
    by_cases hname : name = ""
    · subst hname
      exact hnumber
    · rw [filter_name hname, quotedOr, if_neg hname, ← String.append_assoc, ← String.append_assoc]
      rfl

/-- An attribute that a rule asks for. -/
inductive Attribute where
  /-- The command of a tool. -/
  | baseCommand
  /-- The inputs of a tool. -/
  | inputs
  /-- The title or the description of a workflow. -/
  | description (d : Description)
  /-- The title or the description of the input at a position of a workflow. -/
  | inputDescription (position : ℕ) (i : Input) (d : Description)
  /-- A field of the metadata of a workflow. -/
  | metadata (field : ProvenanceField)

namespace Attribute

/-- The class of the processes that have the attribute. -/
def subject : Attribute → ProcessClass
  | baseCommand | inputs => .commandLineTool
  | description _ | inputDescription .. | metadata _ => .workflow

/-- The rule that asks for the attribute. -/
def rule : Attribute → Rule
  | baseCommand | inputs => .toolElements
  | description _ => .workflowElements
  | inputDescription .. => .inputElements
  | metadata _ => .metadata

/-- A process has the attribute. -/
def Given : Attribute → CwlProcess → Prop
  | baseCommand, q => q.baseCommand ≠ none
  | inputs, q => q.inputs ≠ none
  | description d, q => d.ofProcess q ≠ none
  | inputDescription position i d, q =>
    (∃ inputs, q.inputs = some inputs ∧ inputs[position]? = some i) ∧ d.ofInput i ≠ none
  | metadata field, q => ∃ v, (field, v) ∈ q.provenance

/-- A process without the attribute. -/
def remove : Attribute → CwlProcess → CwlProcess
  | baseCommand, q => { q with baseCommand := none }
  | inputs, q => { q with inputs := none }
  | description d, q => d.removeFromProcess q
  | inputDescription position _ d, q =>
    { q with inputs := q.inputs.map fun l => l.modify position d.removeFromInput }
  | metadata field, q => { q with provenance := q.provenance.filter fun e => e.1 ≠ field }

/-- The name of the attribute in findings. -/
def name : Attribute → String
  | baseCommand => "baseCommand"
  | inputs => "inputs"
  | description d | inputDescription _ _ d => d.name
  | metadata field => field.name

/-- How findings name what lacks the attribute, a process with a number or one of its inputs. -/
def owner (number : ℕ) (q : CwlProcess) : Attribute → String
  | baseCommand | inputs => "CommandLineTool" ++ quotedOr (q.id.map localName) number
  | description _ | metadata _ => "Workflow" ++ quotedOr (q.id.map localName) number
  | inputDescription position i _ =>
    "input" ++ quotedOr (i.id.map shortName) (position + 1) ++ " of " ++
      ("Workflow" ++ quotedOr (q.id.map localName) number)

/-- How much it counts that the attribute is missing: only metadata other than a version may be
left out. -/
def severity : Attribute → IssueSeverity
  | metadata field => if field = .version then .error else .hint
  | _ => .error

/-- The issue that a process with a number lacks the attribute. -/
def issue (x : Attribute) (number : ℕ) (q : CwlProcess) : Issue where
  rule := x.rule
  severity := x.severity
  message :=
    (if x.severity = .error then "Missing element for " else "Missing optional element for ") ++
      x.owner number q ++ ": " ++ x.name

/-- The finding that a process with a number lacks the attribute. -/
def finding (x : Attribute) (number : ℕ) (q : CwlProcess) : Finding :=
  match x with
  | inputDescription position i d =>
    .missing .inputElements (i.display (position + 1) ++ " of " ++ q.display number) d.name
  | metadata field => missingField (q.display number) field
  | _ => .missing x.rule (q.display number) x.name

theorem issue_eq {x : Attribute} {q : CwlProcess} (hsubject : q.processClass = x.subject)
    (number : ℕ) : x.issue number q = (x.finding number q).issue := by
  have hdisplay := q.display_eq_quotedOr number
  rw [hsubject] at hdisplay
  cases x with
  | metadata field =>
    show _ = (missingField (q.display number) field).issue
    rw [hdisplay]
    cases field <;> rfl
  | inputDescription position i d =>
    show _ = (Finding.missing .inputElements
      (i.display (position + 1) ++ " of " ++ q.display number) d.name).issue
    rw [hdisplay, i.display_eq_quotedOr]
    rfl
  | baseCommand | inputs | description d =>
    show _ = (Finding.missing _ (q.display number) _).issue
    rw [hdisplay]
    rfl

/-! ### What the rule finds -/

/-- A rule that asks for elements finds one more missing when one of them is left out. -/
theorem oneMore_missing {ε : Type} {all : List ε} {present present' : ε → Bool}
    {f : ε → Finding} {e : ε} (hall : all.Nodup) (he : e ∈ all) (hgiven : present e = true)
    (hgone : present' e = false) (hother : ∀ e' ≠ e, present' e' = present e') :
    OneMore (f e) ((all.filter fun e => !present e).map f)
      ((all.filter fun e => !present' e).map f) := by
  refine (oneMore_filter hall he ?_ ?_ fun e' he' => ?_).map f
  · rw [hgiven, Bool.not_true]
  · rw [hgone, Bool.not_false]
  · rw [hother e' he']

variable {x : Attribute} {q : CwlProcess} {find : ℕ → CwlProcess → List Finding}

theorem oneMore_inputFindings (d : Description) {i : Input} (hi : d.ofInput i ≠ none)
    (owner : String) (number : ℕ) :
    OneMore (.missing .inputElements (i.display number ++ " of " ++ owner) d.name)
      (inputFindings owner number i) (inputFindings owner number (d.removeFromInput i)) := by
  have hgiven := Option.isSome_iff_ne_none.mpr hi
  cases d with
  | label =>
    refine oneMore_missing (e := InputElement.label) (by decide) (by decide) hgiven rfl ?_
    intro e he
    cases e with
    | label => exact absurd rfl he
    | _ => rfl
  | doc =>
    refine oneMore_missing (e := InputElement.doc) (by decide) (by decide) hgiven rfl ?_
    intro e he
    cases e with
    | doc => exact absurd rfl he
    | _ => rfl

/-- Among the inputs of a workflow only the one at the position makes one finding more. -/
theorem oneMore_workflowInputFindings {position : ℕ} {i : Input} {d : Description}
    (hgiven : (inputDescription position i d).Given q) (n : ℕ) :
    OneMore ((inputDescription position i d).finding n q) (workflowInputFindings n q)
      (workflowInputFindings n ((inputDescription position i d).remove q)) := by
  obtain ⟨⟨inputs, hinputs, hi⟩, hd⟩ := hgiven
  obtain ⟨hlt, rfl⟩ := List.getElem?_eq_some_iff.mp hi
  have hsplit : inputs =
      inputs.take position ++ inputs[position] :: inputs.drop (position + 1) := by
    rw [← List.drop_eq_getElem_cons hlt, List.take_append_drop]
  have hsame : ∀ k : List Input, List.Forall₂ (fun c c' => ∀ m,
      inputFindings (q.display n) m c' = inputFindings (q.display n) m c) k k := fun k =>
    List.forall₂_same.mpr fun _ _ _ => rfl
  have hremove : ((inputDescription position inputs[position] d).remove q).inputs.getD [] =
      inputs.take position ++ d.removeFromInput inputs[position] :: inputs.drop (position + 1) := by
    rw [remove, hinputs, Option.map_some, Option.getD_some, List.modify_eq_take_cons_drop hlt]
  rw [workflowInputFindings, workflowInputFindings, hremove, hinputs, Option.getD_some]
  conv in inputs.zipIdx 1 => rw [hsplit]
  refine oneMore_flatMap_zipIdx (hsame _) (hsame _) ?_
  rw [List.length_take_of_le hlt.le, Nat.add_comm]
  exact oneMore_inputFindings d hd _ _

/-- **What the rule finds** about a process without the attribute is what it found before and one
thing more. -/
theorem oneMore_find (hfind : x.rule.each? = some find) (hgiven : x.Given q) (n : ℕ) :
    OneMore (x.finding n q) (find n q) (find n (x.remove q)) := by
  cases x with
  | baseCommand =>
    obtain rfl := Option.some.inj hfind
    refine oneMore_missing (e := ToolElement.baseCommand) (by decide) (by decide)
      (Option.isSome_iff_ne_none.mpr hgiven) rfl fun e he => ?_
    cases e with
    | baseCommand => exact absurd rfl he
    | _ => rfl
  | inputs =>
    obtain rfl := Option.some.inj hfind
    refine oneMore_missing (e := ToolElement.inputs) (by decide) (by decide)
      (Option.isSome_iff_ne_none.mpr hgiven) rfl fun e he => ?_
    cases e with
    | inputs => exact absurd rfl he
    | _ => rfl
  | description d =>
    obtain rfl := Option.some.inj hfind
    cases d with
    | label =>
      refine oneMore_missing (e := WorkflowElement.label) (by decide) (by decide)
        (Option.isSome_iff_ne_none.mpr hgiven) rfl fun e he => ?_
      cases e with
      | label => exact absurd rfl he
      | _ => rfl
    | doc =>
      refine oneMore_missing (e := WorkflowElement.doc) (by decide) (by decide)
        (Option.isSome_iff_ne_none.mpr hgiven) rfl fun e he => ?_
      cases e with
      | doc => exact absurd rfl he
      | _ => rfl
  | inputDescription position i d =>
    obtain rfl := Option.some.inj hfind
    exact oneMore_workflowInputFindings hgiven n
  | metadata field =>
    obtain rfl := Option.some.inj hfind
    refine oneMore_missing (e := field) (by decide) (by cases field <;> decide)
      (Provenance.has_eq_true_iff.mpr hgiven) ?_ fun e he => ?_
    · rw [← Bool.not_eq_true, Provenance.has_eq_true_iff]
      simp [remove]
    · rw [Bool.eq_iff_iff, Provenance.has_eq_true_iff, Provenance.has_eq_true_iff]
      simp [remove, he]

/-! ### What stays -/

/-- What does not depend on the attributes that may be left out stays as it is. -/
theorem apply_remove {α : Type*} (g : CwlProcess → α)
    (hg : ∀ q label doc inputs baseCommand provenance,
      g { q with label, doc, inputs, baseCommand, provenance } = g q)
    (x : Attribute) (q : CwlProcess) : g (x.remove q) = g q := by
  cases x with
  | baseCommand => exact hg q q.label q.doc q.inputs none q.provenance
  | inputs => exact hg q q.label q.doc none q.baseCommand q.provenance
  | description d =>
    cases d with
    | label => exact hg q none q.doc q.inputs q.baseCommand q.provenance
    | doc => exact hg q q.label none q.inputs q.baseCommand q.provenance
  | inputDescription => exact hg q q.label q.doc _ q.baseCommand q.provenance
  | metadata => exact hg q q.label q.doc q.inputs q.baseCommand _

theorem steps_remove (x : Attribute) (q : CwlProcess) : (x.remove q).steps = q.steps :=
  x.apply_remove CwlProcess.steps (fun _ _ _ _ _ _ => rfl) q

theorem face_remove (x : Attribute) (q : CwlProcess) : (x.remove q).face = q.face :=
  x.apply_remove CwlProcess.face (fun _ _ _ _ _ _ => rfl) q

theorem usesUnsupported_remove (x : Attribute) (q : CwlProcess) :
    (x.remove q).usesUnsupported = q.usesUnsupported :=
  x.apply_remove CwlProcess.usesUnsupported (fun _ _ _ _ _ _ => rfl) q

theorem display_remove (x : Attribute) (q : CwlProcess) (n : ℕ) :
    (x.remove q).display n = q.display n :=
  x.apply_remove (fun q => q.display n) (fun _ _ _ _ _ _ => rfl) q

theorem keepsInPlace_remove (x : Attribute) (q : CwlProcess) :
    CwlProcess.KeepsInPlace x.remove q := by
  intro i
  rw [CwlProcess.child?, CwlProcess.child?, steps_remove]

theorem references_remove (x : Attribute) (q : CwlProcess) :
    (x.remove q).references = q.references := by
  rw [CwlProcess.references, CwlProcess.references, steps_remove]

theorem exists_each?_rule (x : Attribute) : ∃ find, x.rule.each? = some find := by
  cases x <;> exact ⟨_, rfl⟩

theorem subject_rule (x : Attribute) : x.rule.subject = x.subject := by
  cases x <;> rfl

/-- A rule that asks for something else finds the same about a process of its class. -/
theorem find_remove_of_ne {rule : Rule} (hfind : rule.each? = some find)
    (hsubject : x.subject = rule.subject) (hne : rule ≠ x.rule) (n : ℕ) :
    find n (x.remove q) = find n q := by
  cases rule with
  | documentClasses => cases hfind
  | toolElements =>
    cases x with
    | baseCommand | inputs => exact absurd rfl hne
    | _ => cases hsubject
  | workflowElements =>
    obtain rfl := Option.some.inj hfind
    cases x with
    | baseCommand | inputs => cases hsubject
    | description d => exact absurd rfl hne
    | _ => rfl
  | inputElements =>
    obtain rfl := Option.some.inj hfind
    cases x with
    | baseCommand | inputs => cases hsubject
    | description d => cases d <;> rfl
    | inputDescription position i d => exact absurd rfl hne
    | metadata field => rfl
  | metadata =>
    obtain rfl := Option.some.inj hfind
    cases x with
    | baseCommand | inputs => cases hsubject
    | description d => cases d <;> rfl
    | inputDescription position i d => rfl
    | metadata field => exact absurd rfl hne

end Attribute

namespace CwlProcess.SameOwn

variable {q q' : CwlProcess}

theorem usesUnsupported (h : q.SameOwn q') : q'.usesUnsupported = q.usesUnsupported := by
  rw [h.attributes]
  rfl

theorem display (h : q.SameOwn q') (n : ℕ) : q'.display n = q.display n := by
  rw [h.attributes]
  rfl

end CwlProcess.SameOwn

/-- What a rule finds about a process does not depend on what is declared in place in it. -/
theorem Rule.find_sameOwn {rule : Rule} {find : ℕ → CwlProcess → List Finding}
    (hfind : rule.each? = some find) {q q' : CwlProcess} (h : q.SameOwn q') (n : ℕ) :
    find n q' = find n q := by
  rw [h.attributes]
  cases rule with
  | documentClasses => cases hfind
  | _ =>
    obtain rfl := Option.some.inj hfind
    rfl

/-! ### Packages -/

namespace Package

/-- A package leaves out an attribute that another gives to a process in scope, and is like the
other elsewhere. -/
structure LeavesOut (p p' : Package) (entry : Option String) (a : Place) (q : CwlProcess)
    (x : Attribute) : Prop where
  /-- The process stands at the place. -/
  stands : processAt p.processes a = some q
  /-- It is of the class that has the attribute. -/
  subject : q.processClass = x.subject
  /-- It is in scope. -/
  inScope : p.InScopeAt entry x.subject a
  /-- It has the attribute. -/
  given : x.Given q
  /-- The processes are the same but for the attribute. -/
  processes : p'.processes = changeAt x.remove a p.processes

namespace LeavesOut

variable {p p' : Package} {entry : Option String} {a : Place} {q : CwlProcess} {x : Attribute}

variable (h : p.LeavesOut p' entry a q x)
include h

theorem faces : p'.processes.map CwlProcess.face = p.processes.map CwlProcess.face := by
  rw [h.processes]
  exact map_face_changeAt (fun q _ => x.keepsInPlace_remove q) x.face_remove

/-- The same places are in scope. -/
theorem inScopeAt_iff {c : ProcessClass} {b : Place} :
    p'.InScopeAt entry c b ↔ p.InScopeAt entry c b := by
  have hreaches : ∀ {b b'}, Reaches p'.processes b b' ↔ Reaches p.processes b b' := by
    intro b b'
    rw [h.processes]
    exact reaches_changeAt (fun q _ => x.keepsInPlace_remove q) x.face_remove x.references_remove
  cases c with
  | commandLineTool => simp only [InScopeAt, isFirst_isEntry_of_faces h.faces, hreaches]
  | workflow => simp only [InScopeAt, isFirst_isEntry_of_faces h.faces]
  | expressionTool => exact Iff.rfl
  | operation => exact Iff.rfl

theorem hasEntry : p.HasEntry entry ∧ p'.HasEntry entry :=
  ⟨h.inScope.hasEntry, (h.inScopeAt_iff.mpr h.inScope).hasEntry⟩

/-- What is listed by class and place before and after: the process without the attribute, and
others with the same attributes. -/
theorem forall₂_listed {c : ProcessClass} {S S' : Place → Prop} (hS : ∀ b, S' b ↔ S b)
    {l l' : List CwlProcess} (hl : Listed p.processes (fun b r => r.processClass = c ∧ S b) l)
    (hl' : Listed p'.processes (fun b r => r.processClass = c ∧ S' b) l') :
    List.Forall₂ (fun r r' => r.SameOwn r' ∨ (r = q ∧ c = x.subject ∧ S a) ∧
      (x.remove q).SameOwn r') l l' := by
  rw [h.processes] at hl'
  refine (hl.forall₂_changeAt (fun q _ => x.keepsInPlace_remove q) hl' x.face_remove ?_).imp ?_
  · intro b r r' hface
    have hclass : r'.processClass = r.processClass := congrArg Prod.fst hface
    rw [hS, hclass]
  · rintro r r' (hown | ⟨⟨hr, rfl, ha⟩, hown⟩)
    · exact .inl hown
    · rw [h.stands, Option.some.injEq] at hr
      subst hr
      exact .inr ⟨⟨rfl, h.subject, ha⟩, hown⟩

/-- What is selected, with what comes before and after the process. -/
theorem exists_split : ∃ before after before' after',
    (p.select entry).ofClass x.subject = before ++ q :: after ∧
      (p'.select entry).ofClass x.subject = before' ++ x.remove q :: after' ∧
      List.Forall₂ CwlProcess.SameOwn before before' ∧
      List.Forall₂ CwlProcess.SameOwn after after' ∧
      NumberedAmong p.processes (fun b r => r.processClass = x.subject ∧
        p.InScopeAt entry x.subject b) a (before.length + 1) := by
  have hstands : processAt p'.processes a = some (x.remove q) := by
    rw [h.processes, processAt_changeAt fun q _ => x.keepsInPlace_remove q, h.stands,
      Option.map_some, CwlProcess.changeSeen_self]
  have hsubject : (x.remove q).processClass = x.subject := by
    rw [← h.subject]
    exact congrArg Prod.fst (x.face_remove q)
  obtain ⟨before, after, hl, hbefore, hafter⟩ :=
    (p.listed_select_ofClass entry x.subject).split h.stands ⟨h.subject, h.inScope⟩
  obtain ⟨before', after', hl', hbefore', hafter'⟩ :=
    (p'.listed_select_ofClass entry x.subject).split hstands
      ⟨hsubject, h.inScopeAt_iff.mpr h.inScope⟩
  -- what stands elsewhere is not the process itself
  have hothers : ∀ {S S' : Place → Prop} {k k' : List CwlProcess}, (∀ b, S' b ↔ S b) → ¬S a →
      Listed p.processes (fun b r => r.processClass = x.subject ∧ S b) k →
      Listed p'.processes (fun b r => r.processClass = x.subject ∧ S' b) k' →
      List.Forall₂ CwlProcess.SameOwn k k' := by
    intro S S' k k' hS ha hk hk'
    refine (h.forall₂_listed hS hk hk').imp fun r r' hr => ?_
    exact hr.resolve_right fun hq => ha hq.1.2.2
  simp only [and_assoc] at hbefore hafter hbefore' hafter'
  refine ⟨before, after, before', after', hl, hl', hothers ?_ ?_ hbefore hbefore',
    hothers ?_ ?_ hafter hafter', before, ?_, rfl⟩
  · exact fun b => and_congr_left fun _ => h.inScopeAt_iff
  · exact fun ha => lt_irrefl a ha.2
  · exact fun b => and_congr_left fun _ => h.inScopeAt_iff
  · exact fun ha => lt_irrefl a ha.2
  · simpa only [and_assoc] using hbefore

/-- A rule that asks for something else raises the same issues. -/
theorem issues_of_ne {rule : Rule} (hne : rule ≠ x.rule) :
    rule.issues p' entry = rule.issues p entry := by
  rw [Rule.issues, Rule.issues]
  congr 1
  cases hfind : rule.each? with
  | none =>
    cases rule with
    | documentClasses => exact classFindings_congr fun c => exists_processClass_of_faces h.faces
    | _ => cases hfind
  | some find =>
    rw [Rule.findings_of_each? hfind h.hasEntry.1, Rule.findings_of_each? hfind h.hasEntry.2]
    refine flatMap_zipIdx_congr ((h.forall₂_listed (fun b => h.inScopeAt_iff)
      (p.listed_select_ofClass entry rule.subject)
      (p'.listed_select_ofClass entry rule.subject)).imp fun r r' hr n => ?_) 1
    rcases hr with hown | ⟨⟨rfl, hsubject, -⟩, hown⟩
    · exact Rule.find_sameOwn hfind hown n
    · exact (Rule.find_sameOwn hfind hown n).trans
        (Attribute.find_remove_of_ne hfind hsubject.symm hne n)

/-- The rule that asks for the attribute raises one issue more. -/
theorem oneMore_issues_rule : ∃ n,
    NumberedAmong p.processes (fun b r => r.processClass = x.subject ∧
      p.InScopeAt entry x.subject b) a n ∧
      OneMore (x.issue n q) (x.rule.issues p entry) (x.rule.issues p' entry) := by
  obtain ⟨before, after, before', after', hl, hl', hbefore, hafter, hnumber⟩ := h.exists_split
  obtain ⟨find, hfind⟩ := x.exists_each?_rule
  refine ⟨before.length + 1, hnumber, ?_⟩
  rw [Rule.issues, Rule.issues, Attribute.issue_eq h.subject,
    Rule.findings_of_each? hfind h.hasEntry.1, Rule.findings_of_each? hfind h.hasEntry.2,
    x.subject_rule, hl, hl']
  refine OneMore.map (oneMore_flatMap_zipIdx ?_ ?_ ?_) _
  · exact hbefore.imp fun r r' hown => Rule.find_sameOwn hfind hown
  · exact hafter.imp fun r r' hown => Rule.find_sameOwn hfind hown
  · rw [Nat.add_comm]
    exact Attribute.oneMore_find hfind h.given _

/-- The same tools are unsupported, under the same names. -/
theorem unsupported : (p'.select entry).unsupported = (p.select entry).unsupported := by
  rw [Selection.unsupported_eq_flatMap, Selection.unsupported_eq_flatMap]
  refine flatMap_zipIdx_congr ((h.forall₂_listed (fun b => h.inScopeAt_iff)
    (p.listed_select_ofClass entry .commandLineTool)
    (p'.listed_select_ofClass entry .commandLineTool)).imp fun r r' hr n => ?_) 1
  rcases hr with hown | ⟨⟨rfl, -, -⟩, hown⟩
  · rw [hown.usesUnsupported, hown.display]
  · rw [hown.usesUnsupported, hown.display, x.usesUnsupported_remove, x.display_remove]

end LeavesOut

/-- **One attribute less, one issue more.**  Where an attribute of a process in scope is left out,
the issues stay as they are and in their order, but for one more: that this process lacks this
attribute.  The unsupported tools stay the same as well. -/
theorem oneMore_issues_of_leavesOut {p p' : Package} {entry : Option String} {a : Place}
    {q : CwlProcess} {x : Attribute} (h : p.LeavesOut p' entry a q x) :
    ∃ n, NumberedAmong p.processes (fun b r => r.processClass = x.subject ∧
        p.InScopeAt entry x.subject b) a n ∧
      OneMore (x.issue n q) (p.issues entry) (p'.issues entry) ∧
      (p'.select entry).unsupported = (p.select entry).unsupported := by
  obtain ⟨n, hnumber, hone⟩ := h.oneMore_issues_rule
  refine ⟨n, hnumber, ?_, h.unsupported⟩
  exact oneMore_flatMap Rule.nodup_all x.rule.mem_all hone fun rule hne => h.issues_of_ne hne

/-- A package without an attribute of the process at a place. -/
def without (p : Package) (x : Attribute) (a : Place) : Package :=
  { p with document := { p.document with processes := changeAt x.remove a p.document.processes } }

/-- A tool with a command and without a name. -/
def nameless : CwlProcess :=
  ⟨.commandLineTool, none, none, none, none, none, none, some ["run"], [], []⟩

/-- An input with a title and without a name. -/
def area : Input := ⟨none, some "Area", none⟩

/-- A workflow with two inputs, the second one without a name, that declares two tools in place, the
second one without a name. -/
def unfinished : CwlProcess :=
  ⟨.workflow, some "#main", none, none, some [⟨some "main/scene", none, none⟩, area], none, none,
    none, [⟨none, .inline (bare .commandLineTool "#first" [])⟩, ⟨none, .inline nameless⟩], []⟩

/-- A package of this workflow. -/
def twoSteps : Package where
  text := ""
  document := { value := .null, cwlVersion := none, namespaces := [], processes := [unfinished] }

theorem isFirst_twoSteps : IsFirst (IsEntry "main") twoSteps.processes 0 :=
  ⟨⟨_, rfl, rfl, by decide +kernel⟩, fun j hj => absurd hj (Nat.not_lt_zero j)⟩

theorem leavesOut_twoSteps : twoSteps.LeavesOut (twoSteps.without .baseCommand [0, 1])
    (some "main") [0, 1] nameless .baseCommand where
  stands := rfl
  subject := rfl
  inScope := by
    rintro _ ⟨⟩
    exact ⟨0, isFirst_twoSteps, .single (.inline rfl rfl rfl)⟩
  given := Option.some_ne_none _
  processes := rfl

theorem leavesOut_title_twoSteps :
    twoSteps.LeavesOut (twoSteps.without (.inputDescription 1 area .label) [0]) (some "main") [0]
      unfinished (.inputDescription 1 area .label) where
  stands := rfl
  subject := rfl
  inScope := by
    refine ⟨0, rfl, ?_⟩
    rintro _ ⟨⟩
    exact isFirst_twoSteps
  given := ⟨⟨_, rfl, rfl⟩, Option.some_ne_none _⟩
  processes := rfl

theorem oneMore_issues_of_leavesOut_twoSteps :
    twoSteps.LeavesOut (twoSteps.without .baseCommand [0, 1]) (some "main") [0, 1] nameless
        .baseCommand ∧
      (∃ n, NumberedAmong twoSteps.processes (fun b r => r.processClass = .commandLineTool ∧
          twoSteps.InScopeAt (some "main") .commandLineTool b) [0, 1] n ∧
        OneMore (Attribute.baseCommand.issue n nameless) (twoSteps.issues (some "main"))
          ((twoSteps.without .baseCommand [0, 1]).issues (some "main"))) ∧
      (Attribute.baseCommand.issue 2 nameless).message =
        "Missing element for CommandLineTool #2: baseCommand" ∧
      let title := Attribute.inputDescription 1 area .label
      twoSteps.LeavesOut (twoSteps.without title [0]) (some "main") [0] unfinished title ∧
      (∃ n, OneMore (title.issue n unfinished) (twoSteps.issues (some "main"))
        ((twoSteps.without title [0]).issues (some "main"))) ∧
      (title.issue 1 unfinished).message =
        "Missing element for input #2 of Workflow 'main': label" := by
  obtain ⟨n, hnumber, hone, -⟩ := oneMore_issues_of_leavesOut leavesOut_twoSteps
  obtain ⟨m, -, hone', -⟩ := oneMore_issues_of_leavesOut leavesOut_title_twoSteps
  exact ⟨leavesOut_twoSteps, ⟨n, hnumber, hone⟩, by decide +kernel, leavesOut_title_twoSteps,
    ⟨m, hone'⟩, by decide +kernel⟩

end Package

end CwlCompliance
