import CwlCompliance.Proofs.Package.Transform
import CwlCompliance.Proofs.Report.RuleSection
import CwlCompliance.Structural.Validator

/-!
# How identifiers are spelled

An identifier may be spelled as a bare name, with a hash before it, or with the location of the
document before the hash.  Only its local name counts: a document in which identifiers, references
and the names of inputs are respelled keeps what an entry point selects, what the rules find and the
verdict.

## Main definitions

* `respell base id` — the identifier with the same local name at another base.
* `CwlProcess.respell`, `Package.respell` — a process or a package with all its identifiers
  respelled.

## Main results

* `localName_respell`, `shortName_respell` — names stay as they are.
* `Package.select_respell` — the same is selected.
* `Package.issues_respell`, `Package.unsupported_respell` — the same is found.
* `Package.respelled_alike` — **verdicts do not depend on how identifiers are spelled.**
-/

namespace CwlCompliance

/-! ### Identifiers -/

/-- The identifier with the same local name at another base. -/
def respell (base id : String) : String := base ++ "#" ++ localName id

theorem dropWhile_ne_hash {cs : List Char} (h : '#' ∉ cs) (rest : List Char) :
    (cs ++ rest).dropWhile (· ≠ '#') = rest.dropWhile (· ≠ '#') :=
  List.dropWhile_append_of_pos (decide_ne_of_not_mem h)

theorem afterHash_append {cs : List Char} (h : '#' ∉ cs) (rest : List Char) :
    afterHash (cs ++ '#' :: rest) = rest := by
  rw [afterHash, dropWhile_ne_hash h]
  rfl

theorem afterHash_eq_self {cs : List Char} (h : '#' ∉ cs) : afterHash cs = cs := by
  have hnone := dropWhile_ne_hash h []
  rw [List.append_nil] at hnone
  rw [afterHash, hnone]
  rfl

section Respelled

variable {base : String} (hbase : '#' ∉ base.toList)
include hbase

theorem afterHash_respell (id : String) :
    afterHash (respell base id).toList = afterHash id.toList := by
  have hlist : (respell base id).toList = base.toList ++ '#' :: afterHash id.toList := by
    simp [respell, localName]
  rw [hlist, afterHash_append hbase]

/-- The local name stays as it is, even if it has further hashes or is empty. -/
theorem localName_respell (id : String) : localName (respell base id) = localName id := by
  rw [localName, localName, afterHash_respell hbase]

theorem shortName_respell (id : String) : shortName (respell base id) = shortName id := by
  rw [shortName, shortName, afterHash_respell hbase]

end Respelled

/-- A bare name is respelled with the base and a hash before it. -/
theorem respell_of_bare (base : String) {name : String} (h : '#' ∉ name.toList) :
    respell base name = base ++ "#" ++ name := by
  rw [respell, localName, afterHash_eq_self h, String.ofList_toList]

/-! ### Processes -/

/-- An input with its identifier respelled. -/
def Input.respell (base : String) (i : Input) : Input :=
  { i with id := i.id.map (CwlCompliance.respell base) }

namespace CwlProcess

/-- A process with its own identifier respelled, and with those of its inputs if it is a
workflow. -/
def respellOwn (base : String) (p : CwlProcess) : CwlProcess :=
  { p with
    id := p.id.map (CwlCompliance.respell base)
    inputs := if p.isWorkflow then p.inputs.map (List.map (Input.respell base)) else p.inputs }

/-- A process with all identifiers and references in it respelled, those of processes declared in
place included. -/
def respell (base : String) : CwlProcess → CwlProcess :=
  transform (respellOwn base) (CwlCompliance.respell base)

end CwlProcess

section Respelled

variable {base : String} (hbase : '#' ∉ base.toList)
include hbase

theorem keepsNames_respell : KeepsNames (CwlProcess.respellOwn base) (respell base) where
  process p := by
    rw [CwlProcess.localId, CwlProcess.localId, CwlProcess.respellOwn, Option.map_map]
    congr 1
    funext id
    exact localName_respell hbase id
  reference := localName_respell hbase

theorem Input.properName_respell (i : Input) : (i.respell base).properName = i.properName := by
  have hshort : shortName ∘ CwlCompliance.respell base = shortName := by
    funext id
    exact shortName_respell hbase id
  rw [Input.properName, Input.properName, Input.respell, Option.map_map, hshort]

theorem inputFindings_respell (owner : String) (number : ℕ) (i : Input) :
    inputFindings owner number (i.respell base) = inputFindings owner number i := by
  have hname := Input.properName_respell hbase i
  have hpresent : ∀ e : InputElement, e.present (i.respell base) = e.present i := by
    intro e
    cases e with
    | id => rw [InputElement.present, InputElement.present, hname]
    | label => rfl
    | doc => rfl
  have hdisplay : (i.respell base).display number = i.display number := by
    rw [Input.display, Input.display, hname]
  rw [inputFindings, inputFindings, hdisplay]
  simp only [hpresent]

/-! ### What is found about a process -/

namespace CwlProcess

omit hbase in
theorem processClass_respellOwn (q : CwlProcess) :
    (respellOwn base q).processClass = q.processClass := rfl

omit hbase in
/-- Besides its identifiers, all that a finding can be about stays as it is. -/
theorem respell_eq (q : CwlProcess) :
    q.respell base = { respellOwn base q with steps := (q.respell base).steps } := by
  rw [respell, transform_eq]

theorem properId_respell (q : CwlProcess) : (q.respell base).properId = q.properId := by
  rw [properId, properId, respell, (keepsNames_respell hbase).localId]

theorem display_respell (q : CwlProcess) (number : ℕ) :
    (q.respell base).display number = q.display number := by
  have hclass : (q.respell base).processClass = q.processClass :=
    processClass_transform processClass_respellOwn q
  rw [display, display, properId_respell hbase, hclass]

end CwlProcess

theorem toolFindings_respell (number : ℕ) (q : CwlProcess) :
    toolFindings number (q.respell base) = toolFindings number q := by
  have hpresent : ∀ e : ToolElement, e.present (q.respell base) = e.present q := by
    intro e
    cases e with
    | id => rw [ToolElement.present, ToolElement.present, CwlProcess.properId_respell hbase]
    | inputs =>
      rw [q.respell_eq]
      show (ite _ _ _ : Option (List Input)).isSome = q.inputs.isSome
      split
      · rw [Option.isSome_map]
      · rfl
    | _ => rw [q.respell_eq]; rfl
  rw [toolFindings, toolFindings, CwlProcess.display_respell hbase]
  simp only [hpresent]

theorem workflowFindings_respell (number : ℕ) (q : CwlProcess) :
    workflowFindings number (q.respell base) = workflowFindings number q := by
  have hpresent : ∀ e : WorkflowElement, e.present (q.respell base) = e.present q := by
    intro e
    cases e with
    | id =>
      rw [WorkflowElement.present, WorkflowElement.present, CwlProcess.properId_respell hbase]
    | _ => rw [q.respell_eq]; rfl
  rw [workflowFindings, workflowFindings, CwlProcess.display_respell hbase]
  simp only [hpresent]

theorem workflowInputFindings_respell (number : ℕ) (q : CwlProcess) :
    workflowInputFindings number (q.respell base) = workflowInputFindings number q := by
  -- only the inputs of a workflow are respelled
  have hinputs : (q.respell base).inputs.getD [] = (q.inputs.getD []).map (Input.respell base) ∨
      (q.respell base).inputs.getD [] = q.inputs.getD [] := by
    by_cases hworkflow : q.isWorkflow = true
    · left
      rw [q.respell_eq, CwlProcess.respellOwn, if_pos hworkflow]
      cases q.inputs <;> rfl
    · right
      rw [q.respell_eq, CwlProcess.respellOwn, if_neg hworkflow]
  rw [workflowInputFindings, workflowInputFindings, CwlProcess.display_respell hbase]
  rcases hinputs with h | h
  · rw [h, List.zipIdx_map, List.flatMap_map]
    exact List.flatMap_congr fun x _ => inputFindings_respell hbase _ x.2 x.1
  · rw [h]

theorem metadataFindings_respell (number : ℕ) (q : CwlProcess) :
    metadataFindings number (q.respell base) = metadataFindings number q := by
  rw [metadataFindings, metadataFindings, CwlProcess.display_respell hbase, q.respell_eq]
  rfl

/-! ### What is selected and found -/

namespace Package

variable {p : Package} {entry : Option String}

omit hbase in
/-- A package with all identifiers and references in its processes respelled. -/
def respell (base : String) (p : Package) : Package :=
  p.transform (CwlProcess.respellOwn base) (CwlCompliance.respell base)

theorem select_respell (p : Package) (entry : Option String) :
    (p.respell base).select entry = (p.select entry).transform (CwlProcess.respellOwn base)
      (CwlCompliance.respell base) :=
  select_transform (keepsNames_respell hbase) CwlProcess.processClass_respellOwn p entry

theorem issues_respell (rule : Rule) (p : Package) (entry : Option String) :
    rule.issues (p.respell base) entry = rule.issues p entry := by
  refine issues_transform (keepsNames_respell hbase) CwlProcess.processClass_respellOwn ?_ p entry
  intro find hfind
  cases rule with
  | documentClasses => exact nomatch hfind
  | toolElements => exact Option.some.inj hfind ▸ toolFindings_respell hbase
  | workflowElements => exact Option.some.inj hfind ▸ workflowFindings_respell hbase
  | inputElements => exact Option.some.inj hfind ▸ workflowInputFindings_respell hbase
  | metadata => exact Option.some.inj hfind ▸ metadataFindings_respell hbase

theorem unsupported_respell (p : Package) (entry : Option String) :
    ((p.respell base).select entry).unsupported = (p.select entry).unsupported := by
  have huses : ∀ q : CwlProcess, (q.respell base).usesUnsupported = q.usesUnsupported := by
    intro q
    rw [q.respell_eq]
    rfl
  rw [select_respell hbase, Selection.unsupported, Selection.unsupported]
  show (((p.select entry).tools.map (CwlProcess.respell base)).zipIdx 1 |>.filter _).map _ = _
  rw [List.zipIdx_map, List.filter_map, List.map_map]
  simp only [Function.comp_def, Prod.map, huses, CwlProcess.display_respell hbase, id_eq]

end Package

end Respelled

/-! ### Verdicts -/

/-- What a structural validator says depends on the document that it is handed alone, whatever
starts it. -/
theorem Validator.runBy_congr {p p' : Package} (h : p'.document.value = p.document.value)
    (v : Validator) (start : Launcher) : v.runBy start p' = v.runBy start p := by
  rw [runBy, runBy, copyOf, copyOf, h]

namespace Package

/-- **Verdicts do not depend on how identifiers are spelled.**  A package whose processes are those
of another with all identifiers respelled has the same places selected under every entry point,
the same issues under every rule, the same unsupported tools, and the same verdict, whatever
came of the structural validator; this says the same about both if it is handed one document,
however it is started.  A bare name is spelled at a base by writing the base and a hash before
it. -/
theorem respelled_alike (base : String) (hbase : '#' ∉ base.toList) (p p' : Package)
    (hp : p'.processes = (p.respell base).processes) (entry : Option String) :
    p'.select entry = (p.select entry).transform (CwlProcess.respellOwn base)
      (CwlCompliance.respell base) ∧
    SameOccurrences p.processes p'.processes (p.select entry).workflows
      (p'.select entry).workflows ∧
    SameOccurrences p.processes p'.processes (p.select entry).tools (p'.select entry).tools ∧
    (∀ rule : Rule, rule.issues p' entry = rule.issues p entry) ∧
    p'.issues entry = p.issues entry ∧
    (p'.select entry).unsupported = (p.select entry).unsupported ∧
    (∀ source source' result,
      (p'.validate source' entry result).isValid = (p.validate source entry result).isValid) ∧
    (p'.document.value = p.document.value →
      ∀ (v : Validator) (start : Launcher), v.runBy start p' = v.runBy start p) ∧
    ∀ name : String, '#' ∉ name.toList →
      CwlCompliance.respell base name = base ++ "#" ++ name := by
  have hnames := keepsNames_respell hbase
  obtain ⟨hselect, hissues, hunsupported⟩ := selected_congr p' (p.respell base) hp entry
  have hrule : ∀ rule : Rule, rule.issues p' entry = rule.issues p entry := by
    intro rule
    rw [← issues_respell hbase rule p, ← filter_issues, ← filter_issues, hissues]
  have hall : p'.issues entry = p.issues entry := by
    rw [issues, issues]
    simp only [hrule]
  have hscan : (p'.select entry).unsupported = (p.select entry).unsupported := by
    rw [hunsupported, unsupported_respell hbase]
  refine ⟨?_, ?_, ?_, hrule, hall, hscan, fun _ _ _ => isValid_validate_congr hall hscan,
    Validator.runBy_congr, fun _ => respell_of_bare base⟩
  · rw [hselect, select_respell hbase]
  · rw [hselect, hp]
    exact sameOccurrences_workflows_transform hnames CwlProcess.processClass_respellOwn p entry
  · rw [hselect, hp]
    exact sameOccurrences_tools_transform hnames CwlProcess.processClass_respellOwn p entry

/-- A workflow without a title that runs two tools, one of which it declares in place, with
identifiers spelled in some way. -/
def spelled (spell : String → String) : Package where
  text := ""
  document :=
    { value := .null
      cwlVersion := none
      namespaces := []
      processes :=
        [ ⟨.workflow, some (spell "main"), none, none, some [⟨some (spell "main/aoi"), none, none⟩],
            none, none, none,
            [ ⟨none, .reference (spell "tool")⟩
            , ⟨none, .inline (bare .commandLineTool (spell "") [])⟩ ],
            []⟩
        , bare .commandLineTool (spell "tool") [] ] }

theorem respelled_alike_spelled :
    let located := spelled fun name => "file:///x.cwl#" ++ name
    let hashed := spelled fun name => "#" ++ name
    let plain := spelled id
    '#' ∉ "file:///x.cwl".toList ∧ '#' ∉ "".toList ∧
      located.processes = (plain.respell "file:///x.cwl").processes ∧
      hashed.processes = (plain.respell "").processes ∧
      (plain.select (some "main")).tools.length = 2 ∧ plain.issues (some "main") ≠ [] ∧
      located.issues (some "main") = plain.issues (some "main") ∧
      hashed.issues (some "main") = plain.issues (some "main") := by
  intro located hashed plain
  have hlocation : '#' ∉ "file:///x.cwl".toList := by decide
  have hempty : '#' ∉ "".toList := by decide
  have hlocated : located.processes = (plain.respell "file:///x.cwl").processes := by rfl
  have hhashed : hashed.processes = (plain.respell "").processes := by rfl
  obtain ⟨-, -, -, -, hsame, -⟩ := respelled_alike _ hlocation plain located hlocated (some "main")
  obtain ⟨-, -, -, -, hsame', -⟩ := respelled_alike _ hempty plain hashed hhashed (some "main")
  exact ⟨hlocation, hempty, hlocated, hhashed, by decide +kernel, by decide +kernel, hsame, hsame'⟩

end Package

end CwlCompliance
