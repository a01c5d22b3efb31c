import CwlCompliance.Proofs.CommandLine.Agreement
import CwlCompliance.Proofs.Report.RoundTrip

/-!
# One verdict

A validation tells its verdict three times: by its exit code, by the last line of the report as
text, and by a member of the report as JSON.  They never differ, whatever stands in the report, and
the output has the report as it is.  A validation that has no report exits with a code of its
own.

## Main definitions

* `Text.lastLine`, `Report.verdictWords` — the last line of a text, and the verdict in words.
* `Machine.NoReport` — why a validation has no report.
* `Machine.TellsVerdict` — the exit code, the last line and the member tell one verdict.

## Main results

* `Report.lastLine_text`, `Report.valid_json` — the verdict in the two forms of a report.
* `Report.trimEnd_render_json` — there is nothing to trim at the end of a report as JSON.
* `Machine.code_validated_eq_two_iff` — when a validation has no report.
* `Machine.validated_tells_verdict` — **a validation tells one verdict.**
-/

namespace CwlCompliance

/-! ### The last line -/

namespace Text

/-- The last line of a text, without the end of the line. -/
def lastLine (s : String) : String :=
  let cs := s.toList.reverse
  let cs := if cs.head? = some '\n' then cs.tail else cs
  String.ofList (cs.takeWhile fun c => c ≠ '\n').reverse

/-- What stands between the last two ends of lines is the last line. -/
theorem lastLine_append (s line : String) (h : '\n' ∉ line.toList) :
    lastLine (s ++ "\n" ++ line ++ "\n") = line := by
  have hreverse : (s ++ "\n" ++ line ++ "\n").toList.reverse =
      '\n' :: (line.toList.reverse ++ '\n' :: s.toList.reverse) := by simp
  have hline : (line.toList.reverse ++ '\n' :: s.toList.reverse).takeWhile (fun c => c ≠ '\n') =
      line.toList.reverse := by
    have hnone : '\n' ∉ line.toList.reverse := fun hmem => h (List.mem_reverse.mp hmem)
    refine (takeWhile_dropWhile_append (decide_ne_of_not_mem hnone) ?_).1
    rintro c cs ⟨⟩
    decide
  rw [lastLine, hreverse]
  simp only [List.head?_cons, if_true, List.tail_cons, hline, List.reverse_reverse,
    String.ofList_toList]

end Text

namespace Report

/-- The verdict in words. -/
def verdictWords (r : Report) : String :=
  if r.isValid then "Result: COMPLIANT" else "Result: NOT COMPLIANT"

/-- The last line of the text of a report is the verdict, whatever stands above it. -/
theorem lastLine_text (unique time : String) (r : Report) :
    Text.lastLine (r.render unique time .text) = r.verdictWords := by
  have hwords : '\n' ∉ r.verdictWords.toList := by
    rw [verdictWords]
    cases r.isValid <;> decide
  have hline : r.verdictLine = r.verdictWords ++ "\n" := by
    rw [verdictLine, verdictWords]
    cases r.isValid <;> decide
  rw [render, text, hline, ← String.append_assoc]
  exact Text.lastLine_append _ _ hwords

theorem verdictWords_eq_compliant_iff {r : Report} :
    r.verdictWords = "Result: COMPLIANT" ↔ r.isValid = true := by
  rw [verdictWords]
  cases r.isValid <;> decide

/-- The verdict in a report as JSON. -/
theorem valid_json (unique time : String) (r : Report) :
    (Json.read? (r.render unique time .json)).bind (·.get? "valid") = some (.bool r.isValid) := by
  rw [render, Json.read?_pretty]
  rfl

/-- A report as JSON ends with a brace, so there is nothing to trim. -/
theorem trimEnd_render_json (unique time : String) (r : Report) :
    Text.trimEnd (r.render unique time .json) = r.render unique time .json := by
  obtain ⟨s, hs⟩ : ∃ s, r.render unique time .json = s ++ "\x7d" := by
    rw [render, toJson, Json.Value.pretty, Json.Value.prettyAt]
    exact ⟨_, rfl⟩
  rw [hs]
  exact Text.trimEnd_append (by decide) (by decide)

end Report

/-! ### Validations -/

namespace Machine

variable {m : Machine} {file : Option String} {c : ValidateCommand} {s : Settings} {logs : Logs}
  {files : FileTree} {p : Package}

/-- Why a validation has no report. -/
inductive NoReport (m : Machine) (file : Option String) (source : String) : Prop where
  /-- The settings make no sense. -/
  | settings {t} (h : m.settings file = .error t)
  /-- The logs cannot be opened. -/
  | logs {s t} (hs : m.settings file = .ok s) (h : m.openLogs s.logging = .error t)
  /-- The source supplies no text. -/
  | text {s : Settings} {logs : Logs} {files : FileTree} (hs : m.settings file = .ok s)
    (hlogs : m.openLogs s.logging = .ok (logs, files))
    (h : ∀ text, ¬{ m with files }.Supplies source text)
  /-- The text that it supplies is no package. -/
  | package {s logs files text e} (hs : m.settings file = .ok s)
    (hlogs : m.openLogs s.logging = .ok (logs, files))
    (htext : { m with files }.Supplies source text) (h : Package.ofText text = .error e)

/-- Either there is a reason for having no report, or the validation can take place. -/
theorem noReport_or_ready (m : Machine) (file : Option String) (source : String) :
    m.NoReport file source ∨ ∃ s logs files p, m.Ready file source s logs files p := by
  cases hs : m.settings file with
  | error t => exact .inl (.settings hs)
  | ok s =>
    cases hlogs : m.openLogs s.logging with
    | error t => exact .inl (.logs hs hlogs)
    | ok x =>
      obtain ⟨logs, files⟩ := x
      by_cases htext : ∃ text, { m with files }.Supplies source text
      · obtain ⟨text, htext⟩ := htext
        cases hp : Package.ofText text with
        | error e => exact .inl (.package hs hlogs htext hp)
        | ok p => exact .inr ⟨s, logs, files, p, hs, hlogs, text, htext, hp⟩
      · exact .inl (.text hs hlogs (not_exists.mp htext))

/-- What has no report cannot take place. -/
theorem NoReport.not_ready {source : String} (h : m.NoReport file source) :
    ¬m.Ready file source s logs files p := by
  intro hready
  obtain ⟨hs, hlogs, text, htext, hparsed⟩ := hready
  cases h with
  | settings h => exact nomatch hs.symm.trans h
  | logs hs' h =>
    cases hs.symm.trans hs'
    exact nomatch hlogs.symm.trans h
  | text hs' hlogs' h =>
    cases hs.symm.trans hs'
    cases hlogs.symm.trans hlogs'
    exact h text htext
  | package hs' hlogs' htext' h =>
    cases hs.symm.trans hs'
    cases hlogs.symm.trans hlogs'
    cases htext.unique htext'
    exact nomatch hparsed.symm.trans h

theorem code_validated_of_ready (h : m.Ready file c.source s logs files p) :
    (m.validated file c).code =
      (ExitStatus.ofVerdict (c.report { m with files } (c.plan s) p).isValid).code := by
  rw [validated, fulfil_of_ready h, Command.run, ValidateCommand.run]
  simp only [h.packageAt]
  rfl

/-- A validation without a report is stopped before it runs, or when it loads the package. -/
theorem NoReport.code_validated (h : m.NoReport file c.source) : (m.validated file c).code = 2 := by
  rw [validated, fulfil]
  cases hprepare : m.prepare { settingsFile := file, command := .validate c } with
  | error t => rfl
  | ok x =>
    obtain ⟨s, logs, files⟩ := x
    obtain ⟨s', hs, hrest⟩ := Reading.bind_eq_ok.mp hprepare
    obtain ⟨⟨logs', files'⟩, hlogs, heq⟩ := Reading.bind_eq_ok.mp hrest
    cases heq
    cases hp : { m with files }.packageAt c.source with
    | error t =>
      show (c.run { m with files } s).exit.code = 2
      rw [ValidateCommand.run, hp]
      rfl
    | ok p => exact absurd ⟨hs, hlogs, packageAt_eq_ok_iff.mp hp⟩ h.not_ready

/-- A validation exits with code 2 when it has no report. -/
theorem code_validated_eq_two_iff : (m.validated file c).code = 2 ↔ m.NoReport file c.source := by
  refine ⟨fun hcode => ?_, NoReport.code_validated⟩
  rcases m.noReport_or_ready file c.source with h | ⟨s, logs, files, p, hready⟩
  · exact h
  · rw [code_validated_of_ready hready] at hcode
    cases hvalid : (c.report { m with files } (c.plan s) p).isValid <;>
      rw [hvalid] at hcode <;> exact absurd hcode (by decide)

/-- An exit code and both forms of a report tell one verdict. -/
structure TellsVerdict (code : ℕ) (unique time : String) (r : Report) : Prop where
  /-- The exit code is 0 when the report is valid. -/
  report : code = 0 ↔ r.isValid = true
  /-- It is 0 when the report as JSON says so. -/
  json : code = 0 ↔
    (Json.read? (r.render unique time .json)).bind (·.get? "valid") = some (.bool true)
  /-- It is 0 when the last line of the report as text says so. -/
  text : code = 0 ↔ Text.lastLine (r.render unique time .text) = "Result: COMPLIANT"
  /-- Otherwise it is 1, and the last line says that the package does not comply. -/
  otherwise : code ≠ 0 →
    code = 1 ∧ Text.lastLine (r.render unique time .text) = "Result: NOT COMPLIANT"

theorem tellsVerdict_ofVerdict (unique time : String) (r : Report) :
    TellsVerdict (ExitStatus.ofVerdict r.isValid).code unique time r := by
  have hzero : (ExitStatus.ofVerdict r.isValid).code = 0 ↔ r.isValid = true := by
    rw [ExitStatus.code_eq_zero_iff, ExitStatus.ofVerdict_eq_compliant_iff]
  refine ⟨hzero, ?_, ?_, ?_⟩
  · rw [hzero, r.valid_json]
    simp
  · rw [hzero, r.lastLine_text, r.verdictWords_eq_compliant_iff]
  · rw [ne_eq, hzero, Bool.not_eq_true]
    intro hvalid
    rw [r.lastLine_text, Report.verdictWords, hvalid]
    exact ⟨rfl, rfl⟩

/-- A report is not valid if the structural validator was to be run and gave no outcome. -/
theorem isValid_report_eq_false {plan : ValidationPlan} {v : Validator} {e : StructuralError}
    (hv : plan.validator = some v) (he : m.structural v p = .error e) :
    (c.report m plan p).isValid = false := by
  have hresult : (ValidateCommand.structuralResult m plan p).map
      (fun r => r.mapError StructuralError.fault) = some (.error e.fault) := by
    rw [ValidateCommand.structuralResult, hv, Option.map_some, he]
    rfl
  rw [ValidateCommand.report, hresult, Bool.eq_false_iff, ne_eq,
    Report.isValid_iff (Package.current_validate ..)]
  rintro ⟨-, hblocking, -⟩
  rw [Package.blocking_validate] at hblocking
  exact absurd (List.append_eq_nil_iff.mp hblocking).2 (List.cons_ne_nil _ _)

/-- What a validation adds to its log lines on the output is the report as it is. -/
theorem stdout_validated_render (h : m.Ready file c.source s logs files p) :
    (m.validated file c).stdout =
      logs.shown m.time ({ m with files }.validationEvents c (c.plan s) p) ++
        match (c.plan s).format with
        | .text => (c.report { m with files } (c.plan s) p).render m.unique m.time .text
        | .json =>
          (c.report { m with files } (c.plan s) p).render m.unique m.time .json ++ "\n" := by
  cases hformat : (c.plan s).format with
  | text => exact stdout_validated h hformat
  | json =>
    rw [validated, fulfil_of_ready h, Command.run, ValidateCommand.run]
    simp only [h.packageAt, Logs.answer]
    rw [List.map_append, String.join_append, Logs.join_map_event, List.map_singleton,
      String.join_cons, String.join_nil, String.append_empty, ValidateCommand.output, hformat,
      Report.trimEnd_render_json]
    rfl

/-- **A validation tells one verdict.**  It exits with code 2 when it has no report: when the
settings make no sense, the logs cannot be opened, the source supplies no text, or that text is
no package.  Otherwise its exit code, the last line of its report as text and the member of
its report as JSON agree, whatever is named in the report or printed by the structural
validator, and a structural validator that gives no outcome makes the exit code 1.  Whichever
form is asked for, the output has it as it is, ended by one end of line. -/
theorem validated_tells_verdict (m : Machine) (file : Option String) (c : ValidateCommand) :
    ((m.validated file c).code = 2 ↔ m.NoReport file c.source) ∧
    (m.NoReport file c.source ∨ ∃ s logs files p, m.Ready file c.source s logs files p) ∧
    ∀ s logs files p, m.Ready file c.source s logs files p →
      let report := c.report { m with files } (c.plan s) p
      let text := report.render m.unique m.time .text
      let json := report.render m.unique m.time .json
      let shown := match (c.plan s).format with
        | .text => text
        | .json => json ++ "\n"
      TellsVerdict (m.validated file c).code m.unique m.time report ∧
      (∀ v e, (c.plan s).validator = some v → m.structural v p = .error e →
        (m.validated file c).code = 1) ∧
      (∃ lines, (m.validated file c).stdout = lines ++ shown) ∧
      (logs.console ≠ .stdout → (m.validated file c).stdout = shown) ∧
      Text.trimEnd text ++ "\n" = text ∧ Text.trimEnd json = json := by
  refine ⟨code_validated_eq_two_iff, m.noReport_or_ready file c.source, ?_⟩
  intro s logs files p hready report text json shown
  have hcode : (m.validated file c).code = (ExitStatus.ofVerdict report.isValid).code :=
    code_validated_of_ready hready
  have hstdout : (m.validated file c).stdout =
      logs.shown m.time ({ m with files }.validationEvents c (c.plan s) p) ++ shown :=
    stdout_validated_render hready
  refine ⟨?_, ?_, ⟨_, hstdout⟩, ?_, Report.trimEnd_text m.unique report,
    Report.trimEnd_render_json m.unique m.time report⟩
  · rw [hcode]
    exact tellsVerdict_ofVerdict m.unique m.time report
  · intro v e hv he
    have hvalid : report.isValid = false :=
      isValid_report_eq_false (m := { m with files }) hv he
    rw [hcode, hvalid]
    rfl
  · intro hconsole
    rw [hstdout, Logs.shown_eq_empty hconsole, String.empty_append]

/-- A machine on which the structural validator cannot be started, and requests are answered. -/
def unequipped : Machine :=
  { offering "" with structural := fun v _ => .error (.notLaunched v.program "not found") }

/-- A machine on which what is asked for is not found. -/
def refusing : Machine :=
  { offering "" with network := fun _ => .answered 404 (.ok toolless) }

/-- A package that is fetched is validated, even without a structural validator, and whatever the
entry point is called; one that is not found is not. -/
theorem validated_tells_verdict_unequipped : (∃ logs files p,
    let c : ValidateCommand := ⟨address, some "x\nResult: COMPLIANT", none, false⟩
    unequipped.Ready none address {} logs files p ∧ logs.console ≠ .stdout ∧
      (unequipped.validated none c).code = 1 ∧
      (unequipped.validated none c).stdout =
        (c.report { unequipped with files } (c.plan {}) p).render "" "" .text ∧
      Text.lastLine (unequipped.validated none c).stdout = "Result: NOT COMPLIANT") ∧
    refusing.NoReport none address ∧
      (refusing.validated none ⟨address, none, none, false⟩).code = 2 := by
  constructor
  · have hsettings : (unequipped.settings none).toOption = some {} := by decide +kernel
    have hlogs : (unequipped.openLogs ({} : Settings).logging).toOption.map
        (fun x => x.1.console) = some .stderr := by decide +kernel
    have hpackage : (Package.ofText toolless).toOption.isSome = true := by decide +kernel
    obtain ⟨p, hp⟩ := Option.isSome_iff_exists.mp hpackage
    obtain ⟨logs, files, hready, hconsole⟩ :=
      exists_ready hsettings hlogs (fun _ => supplies_address rfl) hp
    have hstderr : logs.console ≠ .stdout := by
      rw [hconsole]
      decide
    obtain ⟨-, -, htells⟩ := validated_tells_verdict unequipped none
      ⟨address, some "x\nResult: COMPLIANT", none, false⟩
    obtain ⟨hverdict, hunlaunched, -, hstdout, -⟩ := htells {} logs files p hready
    have hcode := hunlaunched _ _ rfl rfl
    refine ⟨logs, files, p, hready, hstderr, hcode, hstdout hstderr, ?_⟩
    rw [hstdout hstderr]
    exact (hverdict.otherwise (by rw [hcode]; decide)).2
  · obtain ⟨htwo, -, -⟩ := validated_tells_verdict refusing none ⟨address, none, none, false⟩
    have hcode : (refusing.validated none ⟨address, none, none, false⟩).code = 2 := by
      decide +kernel
    exact ⟨htwo.mp hcode, hcode⟩

end Machine

end CwlCompliance
