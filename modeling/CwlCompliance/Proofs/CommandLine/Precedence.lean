import CwlCompliance.Proofs.CommandLine.Verdict
import CwlCompliance.Proofs.Settings.Layers

/-!
# What a validation uses

A validation takes its entry point and the format of its report from the command line, else from a
variable of the environment, else from the settings file, and whether and how it runs the
structural validator from the environment and the file.  The settings are checked before the
command line counts, so what a flag says cannot save settings that make no sense; and a file
that cannot be used is an error whatever the environment says.

## Main definitions

* `ValidationPlan.Resolves` — a plan takes each of its parts from the first layer that says it.
* `Machine.UsesLayers` — settings load, and validations use them, by layers.

## Main results

* `Machine.settings_eq_ok_iff_of_fileSays`, `Machine.exists_settings_iff` — the settings that load
  are those of the environment over the file, and they load if they make sense.
* `Machine.resolves_plan` — the plan of a validation.
* `Machine.report_eq_of_flags` — with both flags given the settings count only for the
  structural validator.
* `Machine.usesLayers` — **settings take precedence by layers.**
-/

namespace CwlCompliance

/-- A plan for a command takes each of its parts from the first layer that says it: the entry point
and the format from the command line, the environment or the file, and the structural
validator from the environment or the file. -/
structure ValidationPlan.Resolves (plan : ValidationPlan) (c : ValidateCommand)
    (environment file : Layer) : Prop where
  /-- A flag counts even if it is blank. -/
  entryPoint : plan.entryPoint = (c.entryPoint.or environment.entryPoint).or file.entryPoint
  /-- Without any other word reports are text. -/
  format : plan.format = ((c.format.or environment.format).or file.format).getD .text
  /-- The structural validator is run unless a flag or the settings are against it; its arguments
  come from the file. -/
  validator : plan.validator =
    if c.skipStructural = false ∧ (environment.enabled.or file.enabled).getD true = true then
      some ⟨(environment.program.or file.program).getD "cwltool",
        file.arguments.getD ["--validate"]⟩
    else none

/-- No two plans take their parts so. -/
theorem ValidationPlan.Resolves.unique {plan plan' : ValidationPlan} {c : ValidateCommand}
    {environment file : Layer} (h : plan.Resolves c environment file)
    (h' : plan'.Resolves c environment file) : plan = plan' := by
  rw [ValidationPlan.mk.injEq]
  exact ⟨h.entryPoint.trans h'.entryPoint.symm, h.format.trans h'.format.symm,
    h.validator.trans h'.validator.symm⟩

namespace Machine

variable {m m' : Machine} {named named' : Option String} {environment file : Layer}
  {s s' : Settings} {c : ValidateCommand} {logs logs' : Logs} {files files' : FileTree}
  {p : Package}

/-! ### Loading -/

/-- Settings are loaded from files, changed by the environment, and then checked. -/
theorem settings_eq_ok_iff : m.settings named = .ok s ↔
    ∃ t, Settings.inFiles m.files named m.files.workingPath = .ok t ∧
      (t.override m.environment).check = .ok () ∧ t.override m.environment = s := by
  rw [settings, Settings.load]
  simp only [Reading.mapError_eq_ok, Reading.bind_eq_ok]
  constructor
  · rintro ⟨_, ⟨t, ht, ⟨⟩⟩, ⟨⟩, hcheck, ⟨⟩⟩
    exact ⟨t, ht, hcheck, rfl⟩
  · rintro ⟨t, ht, hcheck, rfl⟩
    exact ⟨_, ⟨t, ht, rfl⟩, (), hcheck, rfl⟩

/-- Where the file in force says something, the settings are those of the environment over the
file, and they load when these make sense. -/
theorem settings_eq_ok_iff_of_fileSays (henvironment : EnvironmentSays m.environment environment)
    (hfile : FileSays m.files named file) : ∃ logging, ∀ s, m.settings named = .ok s ↔
      (environment.above file).Sound ∧ (environment.above file).settings logging = s := by
  obtain rfl := environmentSays_iff.mp henvironment
  obtain ⟨logging, hfiles⟩ := hfile.inFiles_eq
  refine ⟨logging, fun s => ?_⟩
  rw [settings_eq_ok_iff, hfiles]
  simp only [Except.ok.injEq, exists_eq_left', Layer.override_settings, Layer.check_settings_iff]

theorem settings_eq_error (h : FileUnusable m.files named) : ∃ t, m.settings named = .error t := by
  cases hs : m.settings named with
  | error t => exact ⟨t, rfl⟩
  | ok s =>
    obtain ⟨e, he⟩ := h.inFiles_eq
    obtain ⟨t, ht, -⟩ := settings_eq_ok_iff.mp hs
    exact nomatch he.symm.trans ht

/-- Settings load when the file in force says something and the layers make sense. -/
theorem exists_settings_iff : (∃ s, m.settings named = .ok s) ↔
    ∃ environment file, EnvironmentSays m.environment environment ∧
      FileSays m.files named file ∧ (environment.above file).Sound := by
  constructor
  · rintro ⟨s, hs⟩
    rcases fileSays_or_fileUnusable m.files named with ⟨file, hfile⟩ | hunusable
    · have henvironment := environmentSays_ofEnvironment m.environment
      obtain ⟨logging, hload⟩ := settings_eq_ok_iff_of_fileSays henvironment hfile
      exact ⟨_, file, henvironment, hfile, ((hload s).mp hs).1⟩
    · obtain ⟨t, ht⟩ := settings_eq_error hunusable
      exact nomatch ht.symm.trans hs
  · rintro ⟨environment, file, henvironment, hfile, hsound⟩
    obtain ⟨logging, hload⟩ := settings_eq_ok_iff_of_fileSays henvironment hfile
    exact ⟨_, (hload _).mpr ⟨hsound, rfl⟩⟩

/-! ### Plans -/

/-- The plan of a validation takes its parts from the command line, the environment and the
file in force. -/
theorem resolves_plan (henvironment : EnvironmentSays m.environment environment)
    (hfile : FileSays m.files named file) (hs : m.settings named = .ok s) (c : ValidateCommand) :
    (c.plan s).Resolves c environment file := by
  obtain ⟨logging, hload⟩ := settings_eq_ok_iff_of_fileSays henvironment hfile
  obtain ⟨-, rfl⟩ := (hload s).mp hs
  constructor
  · exact Option.or_assoc.symm
  · rw [Option.or_assoc, Option.getD_or]
    rfl
  · -- no variable says anything about the arguments
    have harguments : environment.arguments.or file.arguments = file.arguments := by
      rw [henvironment.arguments, Option.none_or]
    simp only [ValidateCommand.plan, Layer.settings, Layer.above, harguments]
    cases c.skipStructural <;> cases (environment.enabled.or file.enabled).getD true <;> rfl

/-- With both flags given the settings count only for the structural validator. -/
theorem plan_eq_of_flags (hentry : c.entryPoint ≠ none) (hformat : c.format ≠ none)
    (s s' : Settings) : (c.plan s).entryPoint = (c.plan s').entryPoint ∧
      (c.plan s).format = (c.plan s').format ∧
      (c.skipStructural = true → c.plan s = c.plan s') := by
  obtain ⟨source, entry, format, skip⟩ := c
  obtain ⟨name, rfl⟩ := Option.ne_none_iff_exists'.mp hentry
  obtain ⟨f, rfl⟩ := Option.ne_none_iff_exists'.mp hformat
  refine ⟨rfl, rfl, ?_⟩
  rintro rfl
  rfl

/-- Where both flags are given and the structural validator says the same, or is not run,
settings change neither the report nor how a validation exits. -/
theorem report_eq_of_flags (hentry : c.entryPoint ≠ none) (hformat : c.format ≠ none)
    (hready : m.Ready named c.source s logs files p)
    (hready' : m'.Ready named' c.source s' logs' files' p)
    (hresult : c.skipStructural = true ∨ ValidateCommand.structuralResult m (c.plan s) p =
      ValidateCommand.structuralResult m' (c.plan s') p) :
    c.report { m with files } (c.plan s) p = c.report { m' with files := files' } (c.plan s') p ∧
      (m.validated named c).code = (m'.validated named' c).code := by
  obtain ⟨hentryPoint, -, -⟩ := plan_eq_of_flags hentry hformat s s'
  have hsame : ValidateCommand.structuralResult m (c.plan s) p =
      ValidateCommand.structuralResult m' (c.plan s') p := by
    rcases hresult with hskipped | hsame
    · have hnone : ∀ t, (c.plan t).validator = none := fun t => by
        rw [ValidateCommand.plan, hskipped]
        rfl
      rw [ValidateCommand.structuralResult, ValidateCommand.structuralResult, hnone, hnone]
      rfl
    · exact hsame
  have hreport : c.report { m with files } (c.plan s) p =
      c.report { m' with files := files' } (c.plan s') p := by
    show p.validate _ (c.plan s).entryPoint
      ((ValidateCommand.structuralResult m (c.plan s) p).map _) = _
    rw [hentryPoint, hsame]
    rfl
  refine ⟨hreport, ?_⟩
  rw [code_validated_of_ready hready, code_validated_of_ready hready', hreport]

/-! ### Validations -/

/-- Settings load, and validations use them, by layers. -/
structure UsesLayers (m : Machine) (named : Option String) : Prop where
  /-- The environment says something, if only that nothing is set. -/
  environment : ∃ environment, EnvironmentSays m.environment environment
  /-- The file in force says something, if only by not being there, or it cannot be used. -/
  file : (∃ file, FileSays m.files named file) ∨ FileUnusable m.files named
  /-- Settings load when the file in force says something and the environment over the file makes
  sense, whatever the command line says. -/
  loads : (∃ s, m.settings named = .ok s) ↔
    ∃ environment file, EnvironmentSays m.environment environment ∧
      FileSays m.files named file ∧ (environment.above file).Sound
  /-- If they do not load then nothing is validated. -/
  stops : (¬∃ s, m.settings named = .ok s) → ∀ c, (m.validated named c).code = 2
  /-- If the file in force cannot be used then they do not load in any environment. -/
  unusable : FileUnusable m.files named → ∀ e s, { m with environment := e }.settings named ≠ .ok s
  /-- If they load then each part of a plan comes from the first layer that says it. -/
  plan : ∀ environment file s, EnvironmentSays m.environment environment →
    FileSays m.files named file → m.settings named = .ok s →
      ∀ c : ValidateCommand, (c.plan s).Resolves c environment file
  /-- The plan is what a validation uses: it exits by the report for it, and prints this report in
  its format. -/
  report : ∀ s logs files p (c : ValidateCommand), m.Ready named c.source s logs files p →
    (m.validated named c).code =
      (ExitStatus.ofVerdict (c.report { m with files } (c.plan s) p).isValid).code ∧
    ∃ lines, (m.validated named c).stdout = lines ++
      match (c.plan s).format with
      | .text => (c.report { m with files } (c.plan s) p).render m.unique m.time .text
      | .json => (c.report { m with files } (c.plan s) p).render m.unique m.time .json ++ "\n"
  /-- With both flags given, settings that load make a difference to the structural validator
  only, -/
  flags : ∀ c : ValidateCommand, c.entryPoint ≠ none → c.format ≠ none →
    ∀ (m' : Machine) (named' : Option String) (s s' : Settings), m.settings named = .ok s →
      m'.settings named' = .ok s' → (c.plan s).entryPoint = (c.plan s').entryPoint ∧
        (c.plan s).format = (c.plan s').format ∧ (c.skipStructural = true → c.plan s = c.plan s')
  /-- and to nothing if it says the same or is not run. -/
  sameReport : ∀ c : ValidateCommand, c.entryPoint ≠ none → c.format ≠ none →
    ∀ (m' : Machine) (named' : Option String) s s' logs logs' files files' p,
      m.Ready named c.source s logs files p → m'.Ready named' c.source s' logs' files' p →
        (c.skipStructural = true ∨ ValidateCommand.structuralResult m (c.plan s) p =
          ValidateCommand.structuralResult m' (c.plan s') p) →
        c.report { m with files } (c.plan s) p =
          c.report { m' with files := files' } (c.plan s') p ∧
        (m.validated named c).code = (m'.validated named' c).code

/-- **Settings take precedence by layers**: the command line over the environment, the
environment over the file in force, and the file over what holds when nobody says anything. -/
theorem usesLayers (m : Machine) (named : Option String) : m.UsesLayers named where
  environment := ⟨_, environmentSays_ofEnvironment m.environment⟩
  file := fileSays_or_fileUnusable m.files named
  loads := exists_settings_iff
  stops := by
    intro hnone c
    cases hs : m.settings named with
    | ok s => exact absurd ⟨s, hs⟩ hnone
    | error t => exact NoReport.code_validated (.settings hs)
  unusable := by
    intro hunusable e s hs
    obtain ⟨t, ht⟩ := settings_eq_error (m := { m with environment := e }) hunusable
    exact nomatch ht.symm.trans hs
  plan := fun _ _ _ henvironment hfile hs c => resolves_plan henvironment hfile hs c
  report := fun _ _ _ _ _ hready =>
    ⟨code_validated_of_ready hready, _, stdout_validated_render hready⟩
  flags := fun _ hentry hformat _ _ s s' _ _ => plan_eq_of_flags hentry hformat s s'
  sameReport := fun _ hentry hformat _ _ _ _ _ _ _ _ _ hready hready' hresult =>
    report_eq_of_flags hentry hformat hready hready' hresult

/-! ### A settings file -/

/-- Settings that do not want the structural validator to be run, and name a blank program for
it. -/
def configuration : String :=
  "[structural]\nenabled = false\ncommand = \" \"\nargs = [\"--strict\"]\n" ++
    "[checks]\nentry_point = \"main\"\n[report]\nformat = \"json\"\n"

/-- A machine with these settings and with variables of the environment. -/
def configured (environment : Variables) : Machine :=
  { offering configuration with environment }

/-- What the file of this machine says. -/
def configuredFile : Layer :=
  { enabled := some false, program := some " ", arguments := some ["--strict"]
    entryPoint := some "main", format := some .json }

theorem fileSays_configured (environment : Variables) :
    FileSays (configured environment).files none configuredFile := by
  have hhas : (offering configuration).files.has
      (settingsPath (offering configuration).files none) = true := by decide +kernel
  have htext : ((offering configuration).files.readText
      (settingsPath (offering configuration).files none)).toOption = some configuration := by
    decide +kernel
  have hsettings : Settings.ofToml? configuration =
      some ⟨⟨false, ⟨" ", ["--strict"]⟩⟩, some "main", .json, {}⟩ := by decide +kernel
  obtain ⟨entries, hentries, l, logging, h, hl⟩ := Settings.ofToml?_eq_some_iff.mp hsettings
  -- none of these settings is what holds when nothing is said
  have hsaid : ∀ {α : Type} {o : Option α} {default a : α}, o.getD default = a → default ≠ a →
      o = some a := fun h hne => (Option.getD_eq_iff.mp h).resolve_right fun hnone => hne hnone.2
  have hlayer : l = configuredFile := by
    simp only [Layer.settings, Settings.mk.injEq, StructuralSettings.mk.injEq,
      Validator.mk.injEq] at hl
    obtain ⟨⟨henabled, hprogram, harguments⟩, hentryPoint, hformat, -⟩ := hl
    rw [configuredFile, Layer.mk.injEq]
    exact ⟨hsaid henabled (by decide), hsaid hprogram (by decide), hsaid harguments (by decide),
      hentryPoint, hsaid hformat (by decide)⟩
  exact hlayer ▸ .table hhas (Reading.toOption_eq_some.mp htext) hentries h

/-- Variables that want what the file does not want. -/
def opposing : Variables :=
  [("AP_VALIDATOR_STRUCTURAL_ENABLED", Utf8.encode "true"),
    ("AP_VALIDATOR_STRUCTURAL_COMMAND", Utf8.encode "checker"),
    ("AP_VALIDATOR_ENTRY_POINT", Utf8.encode " other"),
    ("AP_VALIDATOR_REPORT_FORMAT", Utf8.encode " Text\n")]

/-- Variables that say nothing: no truth value, no text at all, a blank entry point and no
format. -/
def unheard : Variables :=
  [("AP_VALIDATOR_STRUCTURAL_ENABLED", Utf8.encode "TRUE"),
    ("AP_VALIDATOR_STRUCTURAL_COMMAND", [0xFF]),
    ("AP_VALIDATOR_ENTRY_POINT", Utf8.encode "\u2003"),
    ("AP_VALIDATOR_REPORT_FORMAT", Utf8.encode "xml")]

/-- Variables count over the file if they say something, and flags over both; but no flag saves
settings that make no sense. -/
theorem usesLayers_configured :
    (∃ s, (configured opposing).settings none = .ok s ∧
      ValidateCommand.plan ⟨"-", none, none, false⟩ s =
        ⟨some " other", .text, some ⟨"checker", ["--strict"]⟩⟩ ∧
      ValidateCommand.plan ⟨"-", some " ", some .json, true⟩ s = ⟨some " ", .json, none⟩) ∧
    (∃ s, (configured unheard).settings none = .ok s ∧
      ValidateCommand.plan ⟨"-", none, none, false⟩ s = ⟨some "main", .json, none⟩) ∧
    ((configured [("AP_VALIDATOR_STRUCTURAL_ENABLED", Utf8.encode "true")]).validated none
      ⟨"-", some "main", some .text, true⟩).code = 2 := by
  refine ⟨?_, ?_, ?_⟩
  · have hlayers := usesLayers (configured opposing) none
    have hfile := fileSays_configured opposing
    have henvironment : EnvironmentSays opposing
        ⟨some true, some "checker", none, some " other", some .text⟩ :=
      environmentSays_iff.mpr (by decide +kernel)
    obtain ⟨s, hs⟩ := hlayers.loads.mpr ⟨_, _, henvironment, hfile, by decide, by decide⟩
    have hplan := hlayers.plan _ _ s henvironment hfile hs
    exact ⟨s, hs, (hplan _).unique ⟨rfl, rfl, rfl⟩, (hplan _).unique ⟨rfl, rfl, rfl⟩⟩
  · have hlayers := usesLayers (configured unheard) none
    have hfile := fileSays_configured unheard
    have henvironment : EnvironmentSays unheard {} := environmentSays_iff.mpr (by decide +kernel)
    obtain ⟨s, hs⟩ := hlayers.loads.mpr ⟨_, _, henvironment, hfile, by decide, by decide⟩
    have hplan := hlayers.plan _ _ s henvironment hfile hs
    exact ⟨s, hs, (hplan _).unique ⟨rfl, rfl, rfl⟩⟩
  · refine (usesLayers _ none).stops ?_ _
    have herror : ((configured [("AP_VALIDATOR_STRUCTURAL_ENABLED", Utf8.encode "true")]).settings
        none).toOption = none := by decide +kernel
    rintro ⟨s, hs⟩
    rw [hs] at herror
    exact nomatch herror

end Machine

end CwlCompliance
