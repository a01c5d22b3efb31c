import CwlCompliance.CommandLine.Machine
import CwlCompliance.Report.Json
import CwlCompliance.Report.Validation

/-!
# Runs of the commands

What each command says and how it exits.  A run says things one after another: output, complaints
and events; where they go is settled elsewhere.  It exits with one code if the package complies,
with another if it does not, and with a third if that could not be found out.

## Main definitions

* `Remark`, `ExitStatus`, `Run` — what a run says and how it exits.
* `ValidateCommand.plan` — what a validation uses, of the command line and the settings.
* `Command.run` — the run of a command.
-/

namespace CwlCompliance

/-- Something that a run says. -/
inductive Remark where
  /-- Output. -/
  | output (text : String)
  /-- A complaint. -/
  | complaint (text : String)
  /-- An event. -/
  | event (e : Event)
  deriving DecidableEq, Repr

/-- How a run exits. -/
inductive ExitStatus where
  /-- The package complies. -/
  | compliant
  /-- The package does not comply. -/
  | notCompliant
  /-- Whether the package complies could not be found out. -/
  | failed
  deriving DecidableEq, Repr

namespace ExitStatus

/-- The exit code. -/
def code : ExitStatus → Nat
  | compliant => 0
  | notCompliant => 1
  | failed => 2

/-- How a run exits that found out whether the package complies. -/
def ofVerdict (complies : Bool) : ExitStatus := if complies then compliant else notCompliant

end ExitStatus

/-- What a run says, in order, and how it exits. -/
structure Run where
  /-- What it says. -/
  remarks : List Remark
  /-- How it exits. -/
  exit : ExitStatus
  deriving DecidableEq, Repr

namespace Run

/-- A run that is stopped. -/
def stopped (unique : String) (events : List Event) (t : Trouble) : Run :=
  { remarks := events.map .event ++ [.complaint (t.report unique)], exit := .failed }

end Run

/-! ### Events -/

namespace Event

/-- A validation starts. -/
def validating (source : String) : Event :=
  { origin := .commands, level := .info
    message := "Validating Application Package " ++ sourceLabel source }

/-- The structural validator is not run. -/
def structuralSkipped : Event :=
  { origin := .commands, level := .debug, message := "structural validation skipped" }

/-- The entry point names no workflow. -/
def unknownEntryPoint (name : String) : Event :=
  { origin := .package, level := .warn, message := "entry point does not match any Workflow id"
    fields := [("entry_point", .quoted name)] }

/-- A rule was checked and raised so many issues. -/
def ruleChecked (rule : Rule) (issues : Nat) : Event :=
  { origin := .validation, level := .debug, message := "requirement check finished"
    fields := [("rule", .plain rule.name), ("issues", .number issues)] }

/-- Something blocks the package. -/
def blocked (unique : String) (f : Failure) : Event :=
  { origin := .validation, level := .warn, message := f.message
    fields := [("code", .plain (f.code.text unique)), ("nodes", .number f.nodes.length)] }

/-- A structural validator gave no outcome. -/
def noOutcome (unique : String) (f : Fault) : Event :=
  { origin := .validation, level := .error, message := f.message
    fields := [("code", .plain (f.code.text unique))] }

/-- A structural validator is started. -/
def starting (v : Validator) : Event :=
  { origin := .structural, level := .debug
    message := "running structural validator: " ++ v.program ++ " " ++ " ".intercalate v.arguments ++
      " " ++ Validator.documentPath }

/-- A structural validator came to its end. -/
def ended (elapsed : String) (o : Outcome) : Event :=
  { origin := .structural, level := .info, message := "structural validator finished"
    fields := [("exit_code", .plain (toString o.exitCode)), ("elapsed_ms", .plain elapsed)] }

/-- A validation came to its end. -/
def validated (r : Report) : Event :=
  { origin := .validation, level := .info, message := "validation finished"
    fields := [("valid", .plain (toString r.isValid)), ("issues", .number r.issues.length)] }

/-- One rule is checked. -/
def checking (rule : Rule) : Event :=
  { origin := .commands, level := .info, message := "running single rule"
    fields := [("rule", .plain rule.name)] }

/-- The structural validator alone is run. -/
def runningAlone (v : Validator) : Event :=
  { origin := .commands, level := .info, message := "Running structural validator " ++ v.program }

end Event

/-- What is logged whenever processes are selected. -/
def Package.selectionEvents (p : Package) (entryPoint : Option String) : List Event :=
  ((p.select entryPoint).scope.missing.map Event.unknownEntryPoint).toList

/-- What is logged about a run of a structural validator. -/
def structuralEvents (m : Machine) (v : Validator) (result : Except StructuralError Outcome) :
    List Event :=
  match result with
  | .ok o => [.starting v, .ended m.elapsed o]
  | .error (.notLaunched ..) => [.starting v]
  | .error (.notWritten ..) => []
  | .error (.notStored _) => []

/-! ### Validation -/

/-- What a validation uses. -/
structure ValidationPlan where
  /-- The entry point. -/
  entryPoint : Option String
  /-- The format of the report. -/
  format : ReportFormat
  /-- The structural validator, if one is run. -/
  validator : Option Validator
  deriving DecidableEq, Repr

/-- The entry point of a command line, or that of the settings. -/
def Settings.entryPointOr (s : Settings) (given : Option String) : Option String :=
  given.or s.entryPoint

namespace ValidateCommand

/-- What a validation uses: of the command line if it says so, otherwise of the settings. -/
def plan (c : ValidateCommand) (s : Settings) : ValidationPlan :=
  { entryPoint := s.entryPointOr c.entryPoint
    format := c.format.getD s.format
    validator :=
      if c.skipStructural || !s.structural.enabled then none else some s.structural.validator }

/-- What the structural validator of a plan says, if one is run. -/
def structuralResult (m : Machine) (plan : ValidationPlan) (p : Package) :
    Option (Except StructuralError Outcome) :=
  plan.validator.map fun v => m.structural v p

/-- The report of a validation. -/
def report (c : ValidateCommand) (m : Machine) (plan : ValidationPlan) (p : Package) : Report :=
  p.validate (sourceLabel c.source) plan.entryPoint
    ((structuralResult m plan p).map fun r => r.mapError StructuralError.fault)

/-- What is logged about checking the rules. -/
def ruleEvents (plan : ValidationPlan) (p : Package) : List Event :=
  Rule.all.flatMap fun rule =>
    p.selectionEvents plan.entryPoint ++
      [.ruleChecked rule (rule.issues p plan.entryPoint).length]

/-- What is logged about the search for what is not supported. -/
def unsupportedEvents (m : Machine) (plan : ValidationPlan) (p : Package) : List Event :=
  p.selectionEvents plan.entryPoint ++
    match (p.select plan.entryPoint).unsupported with
    | [] => []
    | names => [.blocked m.unique (.unsupported names)]

/-- What is logged about the structural validator. -/
def validatorEvents (m : Machine) (plan : ValidationPlan) (p : Package) : List Event :=
  match plan.validator with
  | none => []
  | some v =>
    let result := m.structural v p
    structuralEvents m v result ++
      match result with
      | .ok _ => []
      | .error e => [.noOutcome m.unique e.fault]

/-- What is logged about a validation of a package. -/
def events (c : ValidateCommand) (m : Machine) (plan : ValidationPlan) (p : Package) :
    List Event :=
  (if plan.validator.isNone then [.structuralSkipped] else []) ++ ruleEvents plan p ++
    unsupportedEvents m plan p ++ validatorEvents m plan p ++ [.validated (c.report m plan p)]

/-- The report as output, with one end of line at its end. -/
def output (c : ValidateCommand) (m : Machine) (plan : ValidationPlan) (p : Package) : String :=
  Text.trimEnd ((c.report m plan p).render m.unique m.time plan.format) ++ "\n"

/-- A full validation. -/
def run (c : ValidateCommand) (m : Machine) (s : Settings) : Run :=
  let start := .validating c.source :: m.loadingEvents c.source
  match m.packageAt c.source with
  | .error t => .stopped m.unique start t
  | .ok p =>
    let plan := c.plan s
    { remarks := (start ++ c.events m plan p).map .event ++ [.output (c.output m plan p)]
      exit := .ofVerdict (c.report m plan p).isValid }

end ValidateCommand

/-! ### Single checks -/

namespace CheckCommand

/-- The name of the check for what is not supported. -/
def unsupportedName : String := "unsupported"

/-- Whether the check for what is not supported is meant. -/
def isUnsupported (c : CheckCommand) : Bool :=
  Text.sameIgnoringCase unsupportedName (Text.trim c.rule)

/-- The names of all checks. -/
def names : String := Rule.nameList ++ ", " ++ unsupportedName

/-- The line that heads what a check prints. -/
def heading (failed : Bool) (name : String) : String :=
  (if failed then "FAIL" else "PASS") ++ " " ++ name ++ "\n"

/-- The line that a check prints for an issue. -/
def issueLine (i : Issue) : String := "  " ++ i.severity.name ++ ": " ++ i.message ++ "\n"

/-- The run of the check for what is not supported. -/
def runUnsupported (c : CheckCommand) (m : Machine) (s : Settings) : Run :=
  let start := m.loadingEvents c.source
  match m.packageAt c.source with
  | .error t => .stopped m.unique start t
  | .ok p =>
    let entryPoint := s.entryPointOr c.entryPoint
    let events := (start ++ p.selectionEvents entryPoint).map Remark.event
    match (p.select entryPoint).unsupportedFault? with
    | none => { remarks := events ++ [.output (heading false unsupportedName)], exit := .compliant }
    | some f =>
      { remarks := events ++
          [.output (heading true unsupportedName), .complaint (f.report m.unique)]
        exit := .notCompliant }

/-- The run of the check of a rule. -/
def runRule (c : CheckCommand) (m : Machine) (s : Settings) (rule : Rule) : Run :=
  let start := m.loadingEvents c.source
  match m.packageAt c.source with
  | .error t => .stopped m.unique start t
  | .ok p =>
    let entryPoint := s.entryPointOr c.entryPoint
    let issues := rule.issues p entryPoint
    let failed := issues.any Issue.isError
    { remarks := (start ++ .checking rule :: p.selectionEvents entryPoint).map .event ++
        .output (heading failed rule.name) :: issues.map fun i => .output (issueLine i)
      exit := if failed then .notCompliant else .compliant }

/-- A check of one rule.  What names no rule is found out before the package is read. -/
def run (c : CheckCommand) (m : Machine) (s : Settings) : Run :=
  if c.isUnsupported then c.runUnsupported m s
  else
    match Rule.ofText? c.rule with
    | some rule => c.runRule m s rule
    | none => .stopped m.unique [] (.plain (Rule.unknownMessage c.rule names))

end CheckCommand

/-! ### The structural validator alone -/

/-- A run of the structural validator alone.  What it prints is passed on as it is. -/
def StructureCommand.run (c : StructureCommand) (m : Machine) (s : Settings) : Run :=
  let start := m.loadingEvents c.source
  match m.packageAt c.source with
  | .error t => .stopped m.unique start t
  | .ok p =>
    let v := s.structural.validator
    let result := m.structural v p
    let events := start ++ .runningAlone v :: structuralEvents m v result
    match result with
    | .error e => .stopped m.unique events (.fault e.fault)
    | .ok o =>
      { remarks := events.map .event ++ [.output o.stdout, .complaint o.stderr]
        exit := .ofVerdict o.isValid }

/-- The run of a command. -/
def Command.run (m : Machine) (s : Settings) : Command → Run
  | validate c => c.run m s
  | check c => c.run m s
  | structural c => c.run m s

end CwlCompliance
