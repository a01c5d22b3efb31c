import CwlCompliance.CommandLine.Session
import CwlCompliance.Proofs.Report.RuleSection
import CwlCompliance.Proofs.Source.Retrieval

/-!
# Single checks and full validations agree

A package can be validated in one run, or checked rule by rule in runs of their own.  On
one machine, with the same settings, source and entry point, the verdict is the same, and
so is what is printed about the rules.  Where the log goes to the output as well, every
run prints its log lines before anything else.

## Main definitions

* `Machine.checked`, `Machine.validated` — the answers to a single check and to a full
  validation.
* `Machine.Ready` — the settings make sense, the logs can be opened, and the source supplies the
  text of a package.
* `Logs.shown` — what events add to the output.

## Main results

* `Machine.code_fulfil_eq_zero_iff` — when a session exits with code 0.
* `Machine.stdout_checked`, `Machine.stdout_validated` — what is printed.
* `Machine.checks_agree_with_validation` — **single checks and a full validation agree.**
-/

namespace CwlCompliance

/-! ### White space at the end -/

/-- Trimming a text trims its last part, unless that is blank. -/
theorem Text.trimEnd_append {s t u : String} (ht : trimEnd t = u) (hu : u ≠ "") :
    trimEnd (s ++ t) = s ++ u := by
  have hrest : t.toList.reverse.dropWhile isSpace ≠ [] := by
    intro h
    rw [trimEnd, h] at ht
    exact hu ht.symm
  have hdrop : (t.toList.reverse ++ s.toList.reverse).dropWhile isSpace =
      t.toList.reverse.dropWhile isSpace ++ s.toList.reverse := by
    rw [List.dropWhile_append, if_neg]
    simpa using hrest
  rw [trimEnd, String.toList_append, List.reverse_append, hdrop, List.reverse_append,
    List.reverse_reverse, String.ofList_append, String.ofList_toList, ← ht, trimEnd]

/-- The text of a report ends with one end of line, which trimming it cuts off. -/
theorem Report.trimEnd_text (unique : String) (r : Report) :
    Text.trimEnd (r.text unique) ++ "\n" = r.text unique := by
  have hverdict : ∃ u, u ≠ "" ∧ Text.trimEnd r.verdictLine = u ∧ u ++ "\n" = r.verdictLine := by
    rw [verdictLine]
    cases r.isValid with
    | true => exact ⟨"Result: COMPLIANT", by decide, by decide, by decide⟩
    | false => exact ⟨"Result: NOT COMPLIANT", by decide, by decide, by decide⟩
  obtain ⟨u, hu, htrim, hline⟩ := hverdict
  rw [text, Text.trimEnd_append htrim hu, String.append_assoc, hline]

/-! ### Runs of the commands -/

namespace ExitStatus

theorem code_eq_zero_iff {e : ExitStatus} : e.code = 0 ↔ e = .compliant := by
  cases e <;> decide

theorem ofVerdict_eq_compliant_iff {b : Bool} : ofVerdict b = .compliant ↔ b = true := by
  cases b <;> decide

end ExitStatus

namespace ValidateCommand

/-- When a validation without a structural validator finds that the package complies. -/
theorem exit_run_iff {c : ValidateCommand} (hc : c.skipStructural = true) (m : Machine)
    (s : Settings) : (c.run m s).exit = .compliant ↔ ∃ p, m.packageAt c.source = .ok p ∧
      (∀ rule ∈ Rule.all, rule.passes p (s.entryPointOr c.entryPoint) = true) ∧
        (p.select (s.entryPointOr c.entryPoint)).unsupported = [] := by
  rw [ValidateCommand.run]
  cases m.packageAt c.source with
  | error t => exact iff_of_false (by simp [Run.stopped]) (by simp)
  | ok p =>
    have hplan : (c.plan s).validator = none := by simp [ValidateCommand.plan, hc]
    have hreport : c.report m (c.plan s) p =
        p.validate (sourceLabel c.source) (s.entryPointOr c.entryPoint) none := by
      rw [ValidateCommand.report, ValidateCommand.structuralResult, hplan]
      rfl
    simp only [hreport, ExitStatus.ofVerdict_eq_compliant_iff,
      Package.isValid_validate_none_iff_passes, Except.ok.injEq, exists_eq_left']

end ValidateCommand

namespace CheckCommand

theorem exit_runRule_iff {c : CheckCommand} {rule : Rule} (m : Machine) (s : Settings) :
    (c.runRule m s rule).exit = .compliant ↔ ∃ p, m.packageAt c.source = .ok p ∧
      rule.passes p (s.entryPointOr c.entryPoint) = true := by
  rw [CheckCommand.runRule]
  cases m.packageAt c.source with
  | error t => exact iff_of_false (by simp [Run.stopped]) (by simp)
  | ok p =>
    simp only [Except.ok.injEq, exists_eq_left', Rule.passes]
    cases (rule.issues p (s.entryPointOr c.entryPoint)).any Issue.isError <;> simp

theorem exit_runUnsupported_iff {c : CheckCommand} (m : Machine) (s : Settings) :
    (c.runUnsupported m s).exit = .compliant ↔ ∃ p, m.packageAt c.source = .ok p ∧
      (p.select (s.entryPointOr c.entryPoint)).unsupported = [] := by
  rw [CheckCommand.runUnsupported]
  cases m.packageAt c.source with
  | error t => exact iff_of_false (by simp [Run.stopped]) (by simp)
  | ok p =>
    simp only [Except.ok.injEq, exists_eq_left', Selection.unsupportedFault?]
    cases (p.select (s.entryPointOr c.entryPoint)).unsupported <;> simp

/-- A rule is checked under its name. -/
theorem run_name (rule : Rule) (source : String) (entry : Option String) (m : Machine)
    (s : Settings) : CheckCommand.run ⟨rule.name, source, entry⟩ m s =
      CheckCommand.runRule ⟨rule.name, source, entry⟩ m s rule := by
  have hname : Text.sameIgnoringCase CheckCommand.unsupportedName (Text.trim rule.name) =
      false := by cases rule <;> decide
  have hrule : Rule.ofText? rule.name = some rule := by cases rule <;> decide
  rw [CheckCommand.run, CheckCommand.isUnsupported, hname, hrule]
  rfl

theorem run_unsupportedName (source : String) (entry : Option String) (m : Machine)
    (s : Settings) : CheckCommand.run ⟨CheckCommand.unsupportedName, source, entry⟩ m s =
      CheckCommand.runUnsupported ⟨CheckCommand.unsupportedName, source, entry⟩ m s := by
  have hname : Text.sameIgnoringCase CheckCommand.unsupportedName
      (Text.trim CheckCommand.unsupportedName) = true := by decide
  rw [CheckCommand.run, CheckCommand.isUnsupported, hname, if_pos rfl]

/-- A check heads its rule as the report does. -/
theorem heading_not (passed : Bool) (rule : Rule) :
    heading (!passed) rule.name = rule.heading passed := by
  cases passed <;> rfl

/-- What a check prints for a rule that has been checked is its listing in the report. -/
theorem heading_append_issueLines (rule : Rule) (p : Package) (entry : Option String) :
    heading ((rule.issues p entry).any Issue.isError) rule.name ++
        String.join ((rule.issues p entry).map issueLine) = rule.listing p entry := by
  have hfailed : (rule.issues p entry).any Issue.isError = !rule.passes p entry := by
    rw [Rule.passes, Bool.not_not]
  rw [hfailed, heading_not]
  rfl

end CheckCommand

/-! ### Sessions -/

namespace Logs

/-- What events add to the output. -/
def shown (l : Logs) (time : String) (events : List Event) : String :=
  String.join (events.map fun e => l.toStdout time (.event e))

theorem shown_eq_empty {l : Logs} (h : l.console ≠ .stdout) (time : String)
    (events : List Event) : l.shown time events = "" := by
  induction events with
  | nil => rfl
  | cons e events ih =>
    rw [shown, List.map_cons, String.join_cons, ← shown, ih, toStdout, if_neg h]
    rfl

theorem join_map_event (l : Logs) (time : String) (events : List Event) :
    String.join ((events.map Remark.event).map (l.toStdout time)) = l.shown time events := by
  rw [List.map_map]
  rfl

end Logs

namespace Machine

variable {m : Machine} {file : Option String} {source : String} {entry : Option String}
  {s : Settings} {logs : Logs} {files : FileTree} {p : Package}

/-- The answer to a check, given what names the rule. -/
def checked (m : Machine) (file : Option String) (source : String) (entry : Option String)
    (rule : String) : Answer :=
  m.fulfil { settingsFile := file, command := .check { rule, source, entryPoint := entry } }

/-- The answer to a full validation. -/
def validated (m : Machine) (file : Option String) (c : ValidateCommand) : Answer :=
  m.fulfil { settingsFile := file, command := .validate c }

/-- A run can take place: its settings make sense, its logs can be opened, and its source
supplies the text of a package. -/
structure Ready (m : Machine) (file : Option String) (source : String) (s : Settings)
    (logs : Logs) (files : FileTree) (p : Package) : Prop where
  /-- The settings make sense. -/
  settings : m.settings file = .ok s
  /-- The logs can be opened. -/
  logs : m.openLogs s.logging = .ok (logs, files)
  /-- The source supplies the text of a package. -/
  package : ∃ text, { m with files }.Supplies source text ∧ Package.ofText text = .ok p

theorem Ready.packageAt (h : m.Ready file source s logs files p) :
    { m with files }.packageAt source = .ok p :=
  packageAt_eq_ok_iff.mpr h.package

theorem prepare_of_ready (h : m.Ready file source s logs files p) (c : Command) :
    m.prepare { settingsFile := file, command := c } = .ok (s, logs, files) := by
  rw [prepare, h.settings]
  show (m.openLogs s.logging >>= fun x => pure (s, x.1, x.2)) = _
  rw [h.logs]
  rfl

theorem fulfil_of_ready (h : m.Ready file source s logs files p) (c : Command) :
    m.fulfil { settingsFile := file, command := c } =
      logs.answer m.time files (c.run { m with files } s) := by
  rw [fulfil, prepare_of_ready h]

/-- What a run finds when it can take place is determined by the machine. -/
theorem Ready.unique {s' : Settings} {logs' : Logs} {files' : FileTree} {p' : Package}
    (h : m.Ready file source s logs files p) (h' : m.Ready file source s' logs' files' p') :
    s = s' ∧ p = p' := by
  have hs := h.settings.symm.trans h'.settings
  rw [Except.ok.injEq] at hs
  subst hs
  have hlogs := h.logs.symm.trans h'.logs
  rw [Except.ok.injEq, Prod.mk.injEq] at hlogs
  obtain ⟨rfl, rfl⟩ := hlogs
  have hp := h.packageAt.symm.trans h'.packageAt
  rw [Except.ok.injEq] at hp
  exact ⟨rfl, hp⟩

/-! ### Exit codes -/

/-- When a session exits with code 0, given when the run of its command does. -/
theorem code_fulfil_eq_zero_iff {c : Command} {P : Settings → Package → Prop}
    (hrun : ∀ (m : Machine) (s : Settings), (c.run m s).exit = .compliant ↔
      ∃ p, m.packageAt source = .ok p ∧ P s p) :
    (m.fulfil { settingsFile := file, command := c }).code = 0 ↔
      ∃ s logs files p, m.Ready file source s logs files p ∧ P s p := by
  constructor
  · intro h
    cases hprepare : m.prepare { settingsFile := file, command := c } with
    | error t =>
      -- what stops a session before the run has an exit code of its own
      rw [fulfil, hprepare] at h
      have hfailed : ExitStatus.failed.code = 0 := h
      exact absurd hfailed (by decide)
    | ok x =>
      obtain ⟨s, logs, files⟩ := x
      rw [fulfil, hprepare] at h
      obtain ⟨p, hp, hP⟩ := (hrun _ s).mp (ExitStatus.code_eq_zero_iff.mp h)
      obtain ⟨s', hs, hrest⟩ := Reading.bind_eq_ok.mp hprepare
      obtain ⟨⟨logs', files'⟩, hlogs, heq⟩ := Reading.bind_eq_ok.mp hrest
      cases heq
      exact ⟨s, logs, files, p, ⟨hs, hlogs, packageAt_eq_ok_iff.mp hp⟩, hP⟩
  · rintro ⟨s, logs, files, p, hready, hP⟩
    rw [fulfil_of_ready hready]
    exact ExitStatus.code_eq_zero_iff.mpr ((hrun _ s).mpr ⟨p, hready.packageAt, hP⟩)

theorem code_checked_eq_zero_iff {rule : Rule} :
    (m.checked file source entry rule.name).code = 0 ↔
      ∃ s logs files p, m.Ready file source s logs files p ∧
        rule.passes p (s.entryPointOr entry) = true := by
  refine code_fulfil_eq_zero_iff fun m s => ?_
  rw [Command.run, CheckCommand.run_name, CheckCommand.exit_runRule_iff]

theorem code_checked_unsupported_eq_zero_iff :
    (m.checked file source entry CheckCommand.unsupportedName).code = 0 ↔
      ∃ s logs files p, m.Ready file source s logs files p ∧
        (p.select (s.entryPointOr entry)).unsupported = [] := by
  refine code_fulfil_eq_zero_iff fun m s => ?_
  rw [Command.run, CheckCommand.run_unsupportedName, CheckCommand.exit_runUnsupported_iff]

/-- A validation without a structural validator exits with code 0 when all checks do. -/
theorem code_validated_eq_zero_iff {format : Option ReportFormat} :
    (m.validated file ⟨source, entry, format, true⟩).code = 0 ↔
      (∀ rule ∈ Rule.all, (m.checked file source entry rule.name).code = 0) ∧
        (m.checked file source entry CheckCommand.unsupportedName).code = 0 := by
  have hvalidated : (m.validated file ⟨source, entry, format, true⟩).code = 0 ↔
      ∃ s logs files p, m.Ready file source s logs files p ∧
        (∀ rule ∈ Rule.all, rule.passes p (s.entryPointOr entry) = true) ∧
          (p.select (s.entryPointOr entry)).unsupported = [] :=
    code_fulfil_eq_zero_iff fun m s => by rw [Command.run, ValidateCommand.exit_run_iff rfl]
  rw [hvalidated, code_checked_unsupported_eq_zero_iff]
  simp only [code_checked_eq_zero_iff]
  constructor
  · rintro ⟨s, logs, files, p, hready, hrules, hunsupported⟩
    exact ⟨fun rule hrule => ⟨s, logs, files, p, hready, hrules rule hrule⟩,
      s, logs, files, p, hready, hunsupported⟩
  · -- all checks find the same package under the same settings
    rintro ⟨hrules, s, logs, files, p, hready, hunsupported⟩
    refine ⟨s, logs, files, p, hready, fun rule hrule => ?_, hunsupported⟩
    obtain ⟨s', logs', files', p', hready', hpasses⟩ := hrules rule hrule
    obtain ⟨rfl, rfl⟩ := hready.unique hready'
    exact hpasses

/-! ### Output -/

/-- What the check of a rule logs. -/
def checkEvents (m : Machine) (source : String) (p : Package) (entry : Option String)
    (rule : Rule) : List Event :=
  m.loadingEvents source ++ .checking rule :: p.selectionEvents entry

/-- What a validation logs. -/
def validationEvents (m : Machine) (c : ValidateCommand) (plan : ValidationPlan) (p : Package) :
    List Event :=
  .validating c.source :: m.loadingEvents c.source ++ c.events m plan p

/-- What the check of a rule prints: its log lines, if they go there, and the rule with
what it raises. -/
theorem stdout_checked (h : m.Ready file source s logs files p) (rule : Rule) :
    (m.checked file source entry rule.name).stdout =
      logs.shown m.time ({ m with files }.checkEvents source p (s.entryPointOr entry) rule) ++
        rule.listing p (s.entryPointOr entry) := by
  have hlines : ∀ is : List Issue, String.join
      ((is.map fun i => Remark.output (CheckCommand.issueLine i)).map (logs.toStdout m.time)) =
        String.join (is.map CheckCommand.issueLine) := by
    intro is
    rw [List.map_map]
    rfl
  rw [checked, fulfil_of_ready h, Command.run, CheckCommand.run_name, CheckCommand.runRule]
  simp only [h.packageAt, Logs.answer]
  rw [List.map_append, String.join_append, Logs.join_map_event, List.map_cons, String.join_cons,
    hlines]
  exact congrArg (_ ++ ·) (CheckCommand.heading_append_issueLines rule p _)

/-- What a validation prints as text: its log lines, if they go there, and the report. -/
theorem stdout_validated {c : ValidateCommand} (h : m.Ready file c.source s logs files p)
    (hformat : (c.plan s).format = .text) : (m.validated file c).stdout =
      logs.shown m.time ({ m with files }.validationEvents c (c.plan s) p) ++
        (c.report { m with files } (c.plan s) p).text m.unique := by
  rw [validated, fulfil_of_ready h, Command.run, ValidateCommand.run]
  simp only [h.packageAt, Logs.answer]
  rw [List.map_append, String.join_append, Logs.join_map_event, List.map_singleton,
    String.join_cons, String.join_nil, String.append_empty, ValidateCommand.output, hformat,
    Report.render]
  exact congrArg (_ ++ ·) (Report.trimEnd_text m.unique _)

/-! ### Agreement -/

/-- **Single checks and a full validation agree.**  Without a structural validator the
validation exits with code 0 when all checks do.  Every check prints its rule as the rule
section of the report has it, after its log lines if these go to the output; if they do
not, the rule section is what the five checks print, one after the other. -/
theorem checks_agree_with_validation (m : Machine) (file : Option String) (c : ValidateCommand) :
    (c.skipStructural = true →
      ((m.validated file c).code = 0 ↔
        (∀ rule ∈ Rule.all, (m.checked file c.source c.entryPoint rule.name).code = 0) ∧
          (m.checked file c.source c.entryPoint CheckCommand.unsupportedName).code = 0)) ∧
    ∀ s logs files p, m.Ready file c.source s logs files p →
      let plan := c.plan s
      let report := c.report { m with files } plan p
      (plan.format = .text → (m.validated file c).stdout =
        logs.shown m.time ({ m with files }.validationEvents c plan p) ++ report.text m.unique) ∧
      (∀ rule, (m.checked file c.source c.entryPoint rule.name).stdout =
        logs.shown m.time ({ m with files }.checkEvents c.source p plan.entryPoint rule) ++
          rule.listing p plan.entryPoint) ∧
      report.ruleSection = String.join (Rule.all.map fun rule => rule.listing p plan.entryPoint) ∧
      (logs.console ≠ .stdout → report.ruleSection =
        String.join (Rule.all.map fun rule =>
          (m.checked file c.source c.entryPoint rule.name).stdout)) := by
  obtain ⟨source, entry, format, skip⟩ := c
  refine ⟨?_, ?_⟩
  · rintro rfl
    exact code_validated_eq_zero_iff
  · intro s logs files p hready plan report
    have hchecked : ∀ rule : Rule, (m.checked file source entry rule.name).stdout =
        logs.shown m.time ({ m with files }.checkEvents source p plan.entryPoint rule) ++
          rule.listing p plan.entryPoint := fun rule => stdout_checked hready rule
    have hsection : report.ruleSection =
        String.join (Rule.all.map fun rule => rule.listing p plan.entryPoint) :=
      Package.ruleSection_validate
    refine ⟨stdout_validated hready, hchecked, hsection, fun hconsole => ?_⟩
    rw [hsection]
    congr 1
    refine List.map_congr_left fun rule _ => ?_
    rw [hchecked, Logs.shown_eq_empty hconsole, String.empty_append]

/-! ### A workflow without a tool -/

/-- The text of a package with a workflow and without a tool. -/
def toolless : String := "class: Workflow\n"

/-- A machine with a settings file on which this text is typed in, and is what every request over
the network is answered with. -/
def offering (settings : String) : Machine where
  files := { entries := [(["ap-validator.toml"], .file (Utf8.encode settings))] }
  network := fun _ => .answered 200 (.ok toolless)
  input := Utf8.encode toolless

/-- A URL of the network. -/
def address : String := "https://example.org/app.cwl"

/-- The parts of that URL. -/
def addressUrl : Url :=
  ⟨"https", some { host := .domain "example.org" }, .segments ["app.cwl"], none, none⟩

/-- What requests for that URL are answered with is what it supplies. -/
theorem supplies_address {text : String} (h : m.network addressUrl = .answered 200 (.ok text)) :
    m.Supplies address text := by
  have hurl : Url.parse? address = some addressUrl := by decide +kernel
  exact .fetched (by decide) hurl (.inr rfl) h (by decide) (by decide)

/-- A run can take place about a text that is supplied whatever the files are. -/
theorem exists_ready {console : Console} {text : String}
    (hsettings : (m.settings none).toOption = some s)
    (hlogs : (m.openLogs s.logging).toOption.map (fun x => x.1.console) = some console)
    (hsupplied : ∀ files, { m with files }.Supplies source text)
    (hpackage : (Package.ofText text).toOption = some p) :
    ∃ logs files, m.Ready none source s logs files p ∧ logs.console = console := by
  obtain ⟨⟨logs, files⟩, hopen, hconsole⟩ := Option.map_eq_some_iff.mp hlogs
  exact ⟨logs, files, ⟨Reading.toOption_eq_some.mp hsettings, Reading.toOption_eq_some.mp hopen,
    text, hsupplied files, Reading.toOption_eq_some.mp hpackage⟩, hconsole⟩

/-- What the checks print about the workflow without a tool. -/
def toollessListings : List String :=
  ["FAIL req-7\n  error: No CommandLineTool class defined\n",
    "PASS req-8\n",
    "FAIL req-9\n  error: Missing element for Workflow #1: id\n" ++
      "  error: Missing element for Workflow #1: label\n" ++
      "  error: Missing element for Workflow #1: doc\n",
    "PASS req-10\n",
    "FAIL req-11\n  error: Missing element for Workflow #1: version\n" ++
      "  hint: Missing optional element for Workflow #1: author\n" ++
      "  hint: Missing optional element for Workflow #1: citation\n" ++
      "  hint: Missing optional element for Workflow #1: codeRepository\n" ++
      "  hint: Missing optional element for Workflow #1: contributor\n" ++
      "  hint: Missing optional element for Workflow #1: dateCreated\n" ++
      "  hint: Missing optional element for Workflow #1: keywords\n" ++
      "  hint: Missing optional element for Workflow #1: license\n" ++
      "  hint: Missing optional element for Workflow #1: releaseNotes\n"]

/-- About a package that is fetched, the checks print what stands in the report. -/
theorem checks_agree_with_validation_fetched : ∃ logs files p,
    (offering "").Ready none address {} logs files p ∧ logs.console ≠ .stdout ∧
      ((offering "").validated none ⟨address, none, none, true⟩).code ≠ 0 ∧
      ((offering "").validated none ⟨address, none, none, true⟩).stdout =
        (p.validate address none none).text "" ∧
      (Rule.all.map fun rule => ((offering "").checked none address none rule.name).stdout) =
        toollessListings ∧
      (p.validate address none none).ruleSection = String.join toollessListings := by
  have hsettings : ((offering "").settings none).toOption = some {} := by decide +kernel
  have hlogs : ((offering "").openLogs ({} : Settings).logging).toOption.map
      (fun x => x.1.console) = some .stderr := by decide +kernel
  have hpackage : (Package.ofText toolless).toOption.isSome = true := by decide +kernel
  obtain ⟨p, hp⟩ := Option.isSome_iff_exists.mp hpackage
  obtain ⟨logs, files, hready, hconsole⟩ :=
    exists_ready hsettings hlogs (fun _ => supplies_address rfl) hp
  have hstderr : logs.console ≠ .stdout := by
    rw [hconsole]
    decide
  obtain ⟨hcode, hprinted⟩ :=
    checks_agree_with_validation (offering "") none ⟨address, none, none, true⟩
  obtain ⟨htext, -, -, hsame⟩ := hprinted {} logs files p hready
  have hreq7 : ((offering "").checked none address none Rule.documentClasses.name).code = 1 := by
    decide +kernel
  have hlistings : (Rule.all.map fun rule =>
      ((offering "").checked none address none rule.name).stdout) = toollessListings := by
    decide +kernel
  refine ⟨logs, files, p, hready, hstderr, ?_, ?_, hlistings, ?_⟩
  · rw [ne_eq, hcode rfl]
    rintro ⟨hrules, -⟩
    exact absurd (hreq7.symm.trans (hrules .documentClasses (by decide))) (by decide)
  · rw [htext rfl, Logs.shown_eq_empty hstderr, String.empty_append]
    rfl
  · exact (hsame hstderr).trans (congrArg String.join hlistings)

/-- The same machine with settings that send the log to the output. -/
def loud : Machine := offering "[logging]\nconsole_output = \"stdout\"\n"

/-- With a log that goes to the output, the rule section is not what the checks print. -/
theorem ruleSection_ne_join_stdout : ∃ s logs files p, loud.Ready none "-" s logs files p ∧
    (p.validate "<stdin>" none none).ruleSection ≠
      String.join (Rule.all.map fun rule => (loud.checked none "-" none rule.name).stdout) := by
  have hsettings : (loud.settings none).toOption =
      some { logging := { console := some "stdout" } } := by decide +kernel
  have hlogs : (loud.openLogs { console := some "stdout" }).toOption.map (fun x => x.1.console) =
      some .stdout := by decide +kernel
  have hsection : (Package.ofText toolless).toOption.map (fun p => decide
      ((p.validate "<stdin>" none none).ruleSection ≠ String.join (Rule.all.map fun rule =>
        (loud.checked none "-" none rule.name).stdout))) = some true := by decide +kernel
  obtain ⟨p, hp, hne⟩ := Option.map_eq_some_iff.mp hsection
  obtain ⟨logs, files, hready, -⟩ := exists_ready hsettings hlogs (fun _ => .typedIn rfl rfl) hp
  exact ⟨_, logs, files, p, hready, of_decide_eq_true hne⟩

end Machine

end CwlCompliance
