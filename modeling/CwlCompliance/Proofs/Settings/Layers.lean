import CwlCompliance.Proofs.Text.Blank
import CwlCompliance.Proofs.Text.Utf8
import CwlCompliance.Settings.Reader

/-!
# Layers of settings

Settings come from a file and from variables of the environment, and what neither says has a
default.  Each source is a layer that may say something or nothing about each setting, and the
settings are those of one layer over the other.  Which files can be used depends on the files
alone; whether the settings make sense is asked of the layers together.

What variables and tables say is told by relations, in the words of those who write them, and not
by the functions that read them.

## Main definitions

* `Layer`, `Layer.above` — what a source of settings says, and one layer over another.
* `EnvironmentSays`, `TableSays` — what variables say, and what a table says.
* `Layer.settings`, `Layer.Sound` — the settings of a layer, and when they make sense.
* `FileSays`, `FileUnusable` — what the file in force says, and when it cannot be used.

## Main results

* `environmentSays_iff` — what variables say is determined by them.
* `Settings.ofEntries?_eq_some_iff` — the settings in a table are what the table says.
* `Layer.override_settings` — variables of the environment lie over the file.
* `Layer.check_settings_iff` — settings pass the check when the layer makes sense.
* `fileSays_or_fileUnusable`, `FileSays.inFiles_eq`, `FileUnusable.inFiles_eq` — **the file in
  force says something or cannot be used**, and what comes of it.
-/

namespace CwlCompliance

open Toml (Value)

/-- What a source of settings says about a run, which may be nothing. -/
structure Layer where
  /-- Whether a validation runs the structural validator. -/
  enabled : Option Bool := none
  /-- The program of the structural validator. -/
  program : Option String := none
  /-- The arguments of the structural validator. -/
  arguments : Option (List String) := none
  /-- The entry point. -/
  entryPoint : Option String := none
  /-- The format of reports. -/
  format : Option ReportFormat := none
  deriving DecidableEq, Repr

namespace Layer

/-- What a layer says, or else what the one below it says. -/
def above (upper lower : Layer) : Layer where
  enabled := upper.enabled.or lower.enabled
  program := upper.program.or lower.program
  arguments := upper.arguments.or lower.arguments
  entryPoint := upper.entryPoint.or lower.entryPoint
  format := upper.format.or lower.format

/-- The settings of a layer, with what holds where it says nothing. -/
def settings (l : Layer) (logging : LoggingSection) : Settings where
  structural :=
    { enabled := l.enabled.getD true
      validator := ⟨l.program.getD "cwltool", l.arguments.getD ["--validate"]⟩ }
  entryPoint := l.entryPoint
  format := l.format.getD .text
  logging := logging

/-- The settings of a layer make sense. -/
structure Sound (l : Layer) : Prop where
  /-- If the structural validator is run then its program is not blank. -/
  program : l.enabled.getD true = true → ¬Text.Blank (l.program.getD "cwltool")
  /-- The entry point, if there is one, is not blank. -/
  entryPoint : ∀ name, l.entryPoint = some name → ¬Text.Blank name

variable {l : Layer} {logging : LoggingSection}

theorem check_settings_iff : (l.settings logging).check = .ok () ↔ l.Sound := by
  have hentry : l.entryPoint.any Text.isBlank = false ↔
      ∀ name, l.entryPoint = some name → ¬Text.Blank name := by
    cases l.entryPoint <;> simp [Text.isBlank_eq_false_iff]
  have hprogram : (l.enabled.getD true && Text.isBlank (l.program.getD "cwltool")) = false ↔
      (l.enabled.getD true = true → ¬Text.Blank (l.program.getD "cwltool")) := by
    cases l.enabled.getD true <;> simp [Text.isBlank_eq_false_iff]
  have hsound : l.Sound ↔
      (l.enabled.getD true && Text.isBlank (l.program.getD "cwltool")) = false ∧
        l.entryPoint.any Text.isBlank = false := by
    rw [hprogram, hentry]
    exact ⟨fun h => ⟨h.program, h.entryPoint⟩, fun h => ⟨h.1, h.2⟩⟩
  rw [hsound, Settings.check]
  show (if (l.enabled.getD true && Text.isBlank (l.program.getD "cwltool")) = true then _
    else if l.entryPoint.any Text.isBlank = true then _ else _) = _ ↔ _
  cases l.enabled.getD true && Text.isBlank (l.program.getD "cwltool") <;>
    cases l.entryPoint.any Text.isBlank <;> simp

end Layer

/-! ### The environment -/

/-- A variable of the environment holds a text. -/
def Variables.Holds (e : Variables) (name text : String) : Prop :=
  e.lookup name = some (Utf8.encode text)

theorem Variables.get?_eq_some_iff {e : Variables} {name text : String} :
    e.get? name = some text ↔ e.Holds name text := by
  rw [get?, Option.bind_eq_some_iff, Holds]
  simp only [Utf8.decode?_eq_some_iff, exists_eq_right]

theorem truth?_eq_some_iff {s : String} {b : Bool} :
    truth? s = some b ↔ s = if b then "true" else "false" := by
  rw [truth?]
  cases b <;> split_ifs <;> simp_all

/-- What variables of the environment say. -/
structure EnvironmentSays (e : Variables) (l : Layer) : Prop where
  /-- Two words say whether the structural validator is run, in small letters and without white
  space around them. -/
  enabled : ∀ b, l.enabled = some b ↔
    e.Holds "AP_VALIDATOR_STRUCTURAL_ENABLED" (if b then "true" else "false")
  /-- The program is whatever its variable holds, even if that is blank. -/
  program : ∀ s, l.program = some s ↔ e.Holds "AP_VALIDATOR_STRUCTURAL_COMMAND" s
  /-- There is no variable for the arguments. -/
  arguments : l.arguments = none
  /-- The entry point is what its variable holds, unless that is blank. -/
  entryPoint : ∀ s, l.entryPoint = some s ↔
    e.Holds "AP_VALIDATOR_ENTRY_POINT" s ∧ ¬Text.Blank s
  /-- A format is named in small or capital letters, perhaps with white space around them. -/
  format : ∀ f, l.format = some f ↔
    ∃ s, e.Holds "AP_VALIDATOR_REPORT_FORMAT" s ∧ f.NamedBy s

/-- What is read of variables of the environment. -/
def Layer.ofEnvironment (e : Variables) : Layer where
  enabled := (e.get? "AP_VALIDATOR_STRUCTURAL_ENABLED").bind truth?
  program := e.get? "AP_VALIDATOR_STRUCTURAL_COMMAND"
  entryPoint := e.getProper? "AP_VALIDATOR_ENTRY_POINT"
  format := (e.get? "AP_VALIDATOR_REPORT_FORMAT").bind ReportFormat.ofText?

/-- Variables of the environment lie over the settings. -/
theorem Layer.override_settings (e : Variables) (l : Layer) (logging : LoggingSection) :
    (l.settings logging).override e = ((ofEnvironment e).above l).settings logging := by
  rw [Settings.override, Settings.enabledIn, Settings.programIn, Settings.formatIn]
  simp only [settings, above, Option.getD_or]
  rfl

theorem environmentSays_ofEnvironment (e : Variables) : EnvironmentSays e (.ofEnvironment e) where
  enabled b := by
    rw [Layer.ofEnvironment, Option.bind_eq_some_iff]
    simp only [truth?_eq_some_iff, Variables.get?_eq_some_iff, exists_eq_right]
  program _ := Variables.get?_eq_some_iff
  arguments := rfl
  entryPoint s := by
    rw [Layer.ofEnvironment, Variables.getProper?, Option.filter_eq_some_iff,
      Variables.get?_eq_some_iff, Bool.not_eq_true', Text.isBlank_eq_false_iff]
  format f := by
    rw [Layer.ofEnvironment, Option.bind_eq_some_iff]
    simp only [Variables.get?_eq_some_iff, ReportFormat.ofText?_eq_some_iff]

/-- What variables say is determined by them. -/
theorem environmentSays_iff {e : Variables} {l : Layer} :
    EnvironmentSays e l ↔ l = .ofEnvironment e := by
  constructor
  · intro h
    have hread := environmentSays_ofEnvironment e
    rw [Layer.mk.injEq]
    exact ⟨Option.ext fun b => (h.enabled b).trans (hread.enabled b).symm,
      Option.ext fun s => (h.program s).trans (hread.program s).symm, h.arguments,
      Option.ext fun s => (h.entryPoint s).trans (hread.entryPoint s).symm,
      Option.ext fun f => (h.format f).trans (hread.format f).symm⟩
  · rintro rfl
    exact environmentSays_ofEnvironment e

/-! ### Sections -/

/-- What a section holds as one of its fields.  A section is a table of fields, or a list of them in
their order; a date is a section without fields. -/
inductive FieldOf (place : ℕ) (name : String) : Value → Option Value → Prop
  /-- In a table fields have names. -/
  | inTable (entries : List (String × Value)) :
      FieldOf place name (.table entries) (entries.lookup name)
  /-- In a list fields have places. -/
  | inList (items : List Value) : FieldOf place name (.array items) items[place]?
  /-- A date has none. -/
  | inDate (date : String) : FieldOf place name (.datetime date) none

/-- What a section says in one of its fields, where `Writes` tells which values say what. -/
inductive FieldSays {α : Type} (Writes : Value → α → Prop) (v : Value) (place : ℕ)
    (name : String) : Option α → Prop
  /-- The field is there. -/
  | given {w a} (hfield : FieldOf place name v (some w)) (h : Writes w a) :
      FieldSays Writes v place name (some a)
  /-- The field is not there. -/
  | missing (hfield : FieldOf place name v none) : FieldSays Writes v place name none

/-- What a section says in a field that may be missing in a table, but not in a list. -/
structure FieldSays.InFull {α : Type} (Writes : Value → α → Prop) (v : Value) (place : ℕ)
    (name : String) (a : Option α) : Prop where
  /-- What the field says. -/
  field : FieldSays Writes v place name a
  /-- In a list the field is there. -/
  given : ∀ items, v = .array items → a ≠ none

/-- A value is a text. -/
def WritesText (v : Value) (s : String) : Prop := v = .string s

/-- A value is a truth value. -/
def WritesTruth (v : Value) (b : Bool) : Prop := v = .boolean b

/-- A value is a list of texts. -/
def WritesTexts (v : Value) (ss : List String) : Prop := v = .array (ss.map .string)

/-- A value names a format: by its name, or by a table with its name and nothing under it. -/
inductive WritesFormat : Value → ReportFormat → Prop
  /-- Reports to read. -/
  | text : WritesFormat (.string "text") .text
  /-- Reports for other programs. -/
  | json : WritesFormat (.string "json") .json
  /-- A table with the name. -/
  | table {name v f} (hname : WritesFormat (.string name) f) (hv : v = .array [] ∨ v = .table []) :
      WritesFormat (.table [(name, v)]) f

/-- The section with a title, which has no fields if it is not there. -/
def sectionOf (entries : List (String × Value)) (title : String) : Value :=
  (entries.lookup title).getD (.table [])

/-- What a table of sections says. -/
structure TableSays (entries : List (String × Value)) (l : Layer) (logging : LoggingSection) :
    Prop where
  /-- Whether the structural validator is run. -/
  enabled : FieldSays WritesTruth (sectionOf entries "structural") 0 "enabled" l.enabled
  /-- Its program. -/
  program : FieldSays WritesText (sectionOf entries "structural") 1 "command" l.program
  /-- Its arguments. -/
  arguments : FieldSays WritesTexts (sectionOf entries "structural") 2 "args" l.arguments
  /-- The entry point. -/
  entryPoint :
    FieldSays.InFull WritesText (sectionOf entries "checks") 0 "entry_point" l.entryPoint
  /-- The format of reports. -/
  format : FieldSays WritesFormat (sectionOf entries "report") 0 "format" l.format
  /-- The directory of the log file. -/
  directory :
    FieldSays.InFull WritesText (sectionOf entries "logging") 0 "log_dir" logging.directory
  /-- What is logged. -/
  level :
    FieldSays.InFull WritesText (sectionOf entries "logging") 1 "default_level" logging.level
  /-- Whether there is a log file. -/
  toFile :
    FieldSays.InFull WritesTruth (sectionOf entries "logging") 2 "enable_file" logging.toFile
  /-- Where else logs go. -/
  console :
    FieldSays.InFull WritesText (sectionOf entries "logging") 3 "console_output" logging.console

namespace Settings

theorem text?_eq_some_iff (v : Value) (s : String) : text? v = some s ↔ WritesText v s := by
  cases v <;> simp [text?, WritesText]

theorem bool?_eq_some_iff (v : Value) (b : Bool) : bool? v = some b ↔ WritesTruth v b := by
  cases v <;> simp [bool?, WritesTruth]

theorem mapM_text?_eq_some_iff {items : List Value} {ss : List String} :
    items.mapM text? = some ss ↔ items = ss.map .string := by
  induction items generalizing ss with
  | nil => cases ss <;> simp
  | cons v items ih =>
    rw [List.mapM_cons]
    simp only [Option.bind_eq_bind, Option.bind_eq_some_iff, text?_eq_some_iff, ih, WritesText]
    cases ss <;> simp [eq_comm]

theorem texts?_eq_some_iff (v : Value) (ss : List String) :
    texts? v = some ss ↔ WritesTexts v ss := by
  cases v <;> simp [texts?, WritesTexts, mapM_text?_eq_some_iff]

theorem ofName?_eq_some_iff {s : String} {f : ReportFormat} :
    ReportFormat.ofName? s = some f ↔ WritesFormat (.string s) f := by
  have hname : ReportFormat.ofName? s = some f ↔ s = f.name := by
    rw [ReportFormat.ofName?]
    constructor
    · intro h
      have hfound := List.find?_some h
      exact (beq_iff_eq.mp hfound).symm
    · rintro rfl
      cases f <;> decide
  rw [hname]
  constructor
  · rintro rfl
    cases f with
    | text => exact .text
    | json => exact .json
  · intro h
    cases h <;> rfl

theorem isNothing_iff {v : Value} : isNothing v = true ↔ v = .array [] ∨ v = .table [] := by
  rw [isNothing.eq_def]
  split <;> simp_all

theorem format?_eq_some_iff (v : Value) (f : ReportFormat) :
    format? v = some f ↔ WritesFormat v f := by
  rw [format?.eq_def]
  split
  · exact ofName?_eq_some_iff
  · next name v =>
    rw [Option.ite_none_right_eq_some, isNothing_iff, ofName?_eq_some_iff]
    constructor
    · rintro ⟨hv, hname⟩
      exact .table hname hv
    · rintro (_ | _ | ⟨hname, hv⟩)
      exact ⟨hv, hname⟩
  · next hstring htable =>
    refine iff_of_false (fun h => nomatch h) fun h => ?_
    cases h with
    | text => exact hstring _ rfl
    | json => exact hstring _ rfl
    | table => exact htable _ _ rfl

end Settings

/-! ### Fields -/

section Fields

variable {α : Type} {v : Value} {sec : Section} {place : ℕ} {name : String}
  {Writes : Value → α → Prop} {read : Value → Option α}

/-- What a section holds as a field is what it has there. -/
theorem fieldOf_iff (hs : Section.of? v = some sec) {w : Option Value} :
    FieldOf place name v w ↔ w = sec.get? place name := by
  cases v <;> cases hs
  · exact ⟨fun | .inDate _ => rfl, fun h => h ▸ .inDate _⟩
  · exact ⟨fun | .inList _ => rfl, fun h => h ▸ .inList _⟩
  · exact ⟨fun | .inTable _ => rfl, fun h => h ▸ .inTable _⟩

/-- Only a section has fields. -/
theorem FieldOf.exists_section {w : Option Value} (h : FieldOf place name v w) :
    ∃ sec, Section.of? v = some sec := by
  cases h <;> exact ⟨_, rfl⟩

variable (hread : ∀ w a, read w = some a ↔ Writes w a)

include hread

theorem fieldSays_iff (hs : Section.of? v = some sec) {o : Option α} :
    FieldSays Writes v place name o ↔ match sec.get? place name with
      | none => o = none
      | some w => ∃ a, o = some a ∧ read w = some a := by
  constructor
  · intro h
    cases h with
    | given hfield h =>
      rw [← (fieldOf_iff hs).mp hfield]
      exact ⟨_, rfl, (hread _ _).mpr h⟩
    | missing hfield => rw [← (fieldOf_iff hs).mp hfield]
  · intro h
    cases hw : sec.get? place name with
    | none =>
      rw [hw] at h
      subst h
      exact .missing ((fieldOf_iff hs).mpr hw.symm)
    | some w =>
      rw [hw] at h
      obtain ⟨a, rfl, ha⟩ := h
      exact .given ((fieldOf_iff hs).mpr hw.symm) ((hread w a).mp ha)

/-- A field with a default is what the section says in it, or else the default. -/
theorem Section.optional_eq_some_iff (hs : Section.of? v = some sec) {default a : α} :
    sec.optional place name read default = some a ↔
      ∃ o, FieldSays Writes v place name o ∧ o.getD default = a := by
  simp only [fieldSays_iff hread hs]
  rw [optional]
  cases sec.get? place name <;> simp

/-- A field that may be left out of a table is what the section says in it. -/
theorem Section.perhaps_eq_some_iff (hs : Section.of? v = some sec) {o : Option α} :
    sec.perhaps place name read = some o ↔ FieldSays.InFull Writes v place name o := by
  have hfull : FieldSays.InFull Writes v place name o ↔
      FieldSays Writes v place name o ∧ ∀ items, v = .array items → o ≠ none :=
    ⟨fun h => ⟨h.field, h.given⟩, fun h => ⟨h.1, h.2⟩⟩
  rw [hfull, fieldSays_iff hread hs]
  unfold perhaps
  cases sec.get? place name with
  | some w =>
    simp only [Option.map_eq_some_iff]
    constructor
    · rintro ⟨a, ha, rfl⟩
      exact ⟨⟨a, rfl, ha⟩, fun _ _ h => nomatch h⟩
    · rintro ⟨⟨a, rfl, ha⟩, -⟩
      exact ⟨a, ha, rfl⟩
  | none =>
    cases sec with
    | table entries =>
      have hlist : ∀ items, v ≠ .array items := by
        rintro items rfl
        exact nomatch hs
      simp [hlist, eq_comm]
    | list items =>
      have hlist : v = .array items := by
        cases v <;> cases hs
        rfl
      simp [hlist]

end Fields

/-- Only a section says something in fields. -/
theorem FieldSays.exists_section {α : Type} {Writes : Value → α → Prop} {v : Value} {place : ℕ}
    {name : String} {o : Option α} (h : FieldSays Writes v place name o) :
    ∃ sec, Section.of? v = some sec := by
  cases h with
  | given hfield _ => exact hfield.exists_section
  | missing hfield => exact hfield.exists_section

/-! ### Tables -/

namespace Settings

variable {v : Value}

theorem structural?_eq_some_iff {st : StructuralSettings} : structural? v = some st ↔
    ∃ enabled program arguments, FieldSays WritesTruth v 0 "enabled" enabled ∧
      FieldSays WritesText v 1 "command" program ∧ FieldSays WritesTexts v 2 "args" arguments ∧
        ⟨enabled.getD true, program.getD "cwltool", arguments.getD ["--validate"]⟩ = st := by
  simp only [structural?, Option.bind_eq_bind, Option.bind_eq_some_iff]
  constructor
  · rintro ⟨sec, hsec, b, hb, s, hs, ss, hss, hst⟩
    obtain ⟨enabled, henabled, rfl⟩ := (Section.optional_eq_some_iff bool?_eq_some_iff hsec).mp hb
    obtain ⟨program, hprogram, rfl⟩ := (Section.optional_eq_some_iff text?_eq_some_iff hsec).mp hs
    obtain ⟨arguments, harguments, rfl⟩ :=
      (Section.optional_eq_some_iff texts?_eq_some_iff hsec).mp hss
    exact ⟨enabled, program, arguments, henabled, hprogram, harguments, Option.some.inj hst⟩
  · rintro ⟨enabled, program, arguments, henabled, hprogram, harguments, rfl⟩
    obtain ⟨sec, hsec⟩ := henabled.exists_section
    exact ⟨sec, hsec,
      _, (Section.optional_eq_some_iff bool?_eq_some_iff hsec).mpr ⟨_, henabled, rfl⟩,
      _, (Section.optional_eq_some_iff text?_eq_some_iff hsec).mpr ⟨_, hprogram, rfl⟩,
      _, (Section.optional_eq_some_iff texts?_eq_some_iff hsec).mpr ⟨_, harguments, rfl⟩, rfl⟩

theorem entryPoint?_eq_some_iff {entry : Option String} :
    entryPoint? v = some entry ↔ FieldSays.InFull WritesText v 0 "entry_point" entry := by
  rw [entryPoint?, Option.bind_eq_bind, Option.bind_eq_some_iff]
  constructor
  · rintro ⟨sec, hsec, h⟩
    exact (Section.perhaps_eq_some_iff text?_eq_some_iff hsec).mp h
  · intro h
    obtain ⟨sec, hsec⟩ := h.field.exists_section
    exact ⟨sec, hsec, (Section.perhaps_eq_some_iff text?_eq_some_iff hsec).mpr h⟩

theorem reportFormat?_eq_some_iff {f : ReportFormat} : reportFormat? v = some f ↔
    ∃ format, FieldSays WritesFormat v 0 "format" format ∧ format.getD .text = f := by
  rw [reportFormat?, Option.bind_eq_bind, Option.bind_eq_some_iff]
  constructor
  · rintro ⟨sec, hsec, h⟩
    exact (Section.optional_eq_some_iff format?_eq_some_iff hsec).mp h
  · rintro ⟨format, hformat, rfl⟩
    obtain ⟨sec, hsec⟩ := hformat.exists_section
    exact ⟨sec, hsec,
      (Section.optional_eq_some_iff format?_eq_some_iff hsec).mpr ⟨_, hformat, rfl⟩⟩

theorem logging?_eq_some_iff {logging : LoggingSection} : logging? v = some logging ↔
    FieldSays.InFull WritesText v 0 "log_dir" logging.directory ∧
      FieldSays.InFull WritesText v 1 "default_level" logging.level ∧
      FieldSays.InFull WritesTruth v 2 "enable_file" logging.toFile ∧
      FieldSays.InFull WritesText v 3 "console_output" logging.console := by
  simp only [logging?, Option.bind_eq_bind, Option.bind_eq_some_iff]
  constructor
  · rintro ⟨sec, hsec, _, hdirectory, _, hlevel, _, htoFile, _, hconsole, ⟨⟩⟩
    exact ⟨(Section.perhaps_eq_some_iff text?_eq_some_iff hsec).mp hdirectory,
      (Section.perhaps_eq_some_iff text?_eq_some_iff hsec).mp hlevel,
      (Section.perhaps_eq_some_iff bool?_eq_some_iff hsec).mp htoFile,
      (Section.perhaps_eq_some_iff text?_eq_some_iff hsec).mp hconsole⟩
  · rintro ⟨hdirectory, hlevel, htoFile, hconsole⟩
    obtain ⟨sec, hsec⟩ := hdirectory.field.exists_section
    exact ⟨sec, hsec, _, (Section.perhaps_eq_some_iff text?_eq_some_iff hsec).mpr hdirectory,
      _, (Section.perhaps_eq_some_iff text?_eq_some_iff hsec).mpr hlevel,
      _, (Section.perhaps_eq_some_iff bool?_eq_some_iff hsec).mpr htoFile,
      _, (Section.perhaps_eq_some_iff text?_eq_some_iff hsec).mpr hconsole, rfl⟩

/-- A section that is not there is read as one without fields, which has what holds when nothing
is said. -/
theorem optional_sectionOf {α : Type} {entries : List (String × Value)} {title : String}
    {place : ℕ} (read : Value → Option α) {default : α} (h : read (.table []) = some default) :
    (Section.table entries).optional place title read default = read (sectionOf entries title) := by
  rw [Section.optional, Section.get?, sectionOf]
  cases entries.lookup title with
  | none => exact h.symm
  | some v => rfl

/-- **The settings in a table are what the table says**, with what holds where it says nothing. -/
theorem ofEntries?_eq_some_iff {entries : List (String × Value)} {s : Settings} :
    ofEntries? entries = some s ↔
      ∃ l logging, TableSays entries l logging ∧ l.settings logging = s := by
  simp only [ofEntries?, Option.bind_eq_bind, Option.bind_eq_some_iff]
  rw [optional_sectionOf structural? rfl, optional_sectionOf entryPoint? rfl,
    optional_sectionOf reportFormat? rfl, optional_sectionOf logging? rfl]
  simp only [structural?_eq_some_iff, entryPoint?_eq_some_iff, reportFormat?_eq_some_iff,
    logging?_eq_some_iff]
  constructor
  · rintro ⟨_, ⟨enabled, program, arguments, henabled, hprogram, harguments, rfl⟩, entry, hentry, _,
      ⟨format, hformat, rfl⟩, logging, ⟨hdirectory, hlevel, htoFile, hconsole⟩, hs⟩
    exact ⟨⟨enabled, program, arguments, entry, format⟩, logging,
      ⟨henabled, hprogram, harguments, hentry, hformat, hdirectory, hlevel, htoFile, hconsole⟩,
      Option.some.inj hs⟩
  · rintro ⟨l, logging, h, rfl⟩
    exact ⟨_, ⟨_, _, _, h.enabled, h.program, h.arguments, rfl⟩, _, h.entryPoint, _,
      ⟨_, h.format, rfl⟩, logging, ⟨h.directory, h.level, h.toFile, h.console⟩, rfl⟩

end Settings

/-! ### The file in force -/

open Settings (ofFile inFiles)

/-- The path of the file in force: the file that is named, or else the usual one in the working
directory. -/
def settingsPath (files : FileTree) (named : Option String) : String :=
  named.getD (Path.join files.workingPath Settings.fileName)

/-- What the file in force says. -/
inductive FileSays (files : FileTree) : Option String → Layer → Prop where
  /-- If no file is named and the usual one is not there then nothing is said. -/
  | nothing (h : files.has (settingsPath files none) = false) : FileSays files none {}
  /-- If it holds a table of settings then what the table says is said. -/
  | table {named text entries l logging} (hhas : files.has (settingsPath files named) = true)
    (htext : files.readText (settingsPath files named) = .ok text)
    (hentries : Toml.read? text = some entries) (h : TableSays entries l logging) :
    FileSays files named l

/-- The file in force cannot be used. -/
inductive FileUnusable (files : FileTree) : Option String → Prop where
  /-- A file is named that is not there. -/
  | missing {path} (h : files.has path = false) : FileUnusable files (some path)
  /-- It cannot be read. -/
  | unreadable {named e} (hhas : files.has (settingsPath files named) = true)
    (h : files.readText (settingsPath files named) = .error e) : FileUnusable files named
  /-- What it holds is no table in which something is said. -/
  | malformed {named text} (hhas : files.has (settingsPath files named) = true)
    (htext : files.readText (settingsPath files named) = .ok text)
    (h : ∀ entries, Toml.read? text = some entries → ∀ l logging, ¬TableSays entries l logging) :
    FileUnusable files named

variable {files : FileTree} {named : Option String}

/-- A text holds settings when it writes a table in which something is said. -/
theorem Settings.ofToml?_eq_some_iff {text : String} {s : Settings} : ofToml? text = some s ↔
    ∃ entries, Toml.read? text = some entries ∧
      ∃ l logging, TableSays entries l logging ∧ l.settings logging = s := by
  simp only [ofToml?, Option.bind_eq_bind, Option.bind_eq_some_iff, ofEntries?_eq_some_iff]

/-- A file that is there is read, whether it is named or the usual one. -/
theorem inFiles_of_has (h : files.has (settingsPath files named) = true) :
    inFiles files named files.workingPath = ofFile files (settingsPath files named) := by
  cases named with
  | none => exact if_pos h
  | some path => exact if_pos h

/-- Either the file in force says something, if only by not being there, or it cannot be used. -/
theorem fileSays_or_fileUnusable (files : FileTree) (named : Option String) :
    (∃ l, FileSays files named l) ∨ FileUnusable files named := by
  cases hhas : files.has (settingsPath files named) with
  | false =>
    cases named with
    | none => exact .inl ⟨_, .nothing hhas⟩
    | some path => exact .inr (.missing hhas)
  | true =>
    cases htext : files.readText (settingsPath files named) with
    | error e => exact .inr (.unreadable hhas htext)
    | ok text =>
      cases hs : Settings.ofToml? text with
      | none =>
        refine .inr (.malformed hhas htext fun entries hentries l logging h => ?_)
        exact nomatch hs.symm.trans (Settings.ofToml?_eq_some_iff.mpr ⟨_, hentries, _, _, h, rfl⟩)
      | some s =>
        obtain ⟨entries, hentries, l, logging, h, -⟩ := Settings.ofToml?_eq_some_iff.mp hs
        exact .inl ⟨l, .table hhas htext hentries h⟩

/-- What the file in force says makes up the settings in it. -/
theorem FileSays.inFiles_eq {l : Layer} (h : FileSays files named l) :
    ∃ logging, inFiles files named files.workingPath = .ok (l.settings logging) := by
  cases h with
  | nothing h => exact ⟨{}, if_neg (Bool.eq_false_iff.mp h)⟩
  | @table named text entries l logging hhas htext hentries h =>
    refine ⟨logging, ?_⟩
    have htoml : Settings.ofToml? text = some (l.settings logging) :=
      Settings.ofToml?_eq_some_iff.mpr ⟨_, hentries, _, _, h, rfl⟩
    rw [inFiles_of_has hhas, ofFile, htext]
    simp only [htoml]

/-- There are no settings in a file that cannot be used. -/
theorem FileUnusable.inFiles_eq (h : FileUnusable files named) :
    ∃ e, inFiles files named files.workingPath = .error e := by
  cases h with
  | @missing path h => exact ⟨.noFile path, if_neg (Bool.eq_false_iff.mp h)⟩
  | @unreadable named e hhas h =>
    rw [inFiles_of_has hhas, ofFile, h]
    exact ⟨_, rfl⟩
  | @malformed named text hhas htext h =>
    have htoml : Settings.ofToml? text = none := by
      cases hs : Settings.ofToml? text with
      | none => rfl
      | some s =>
        obtain ⟨entries, hentries, l, logging, htable, -⟩ := Settings.ofToml?_eq_some_iff.mp hs
        exact absurd htable (h entries hentries l logging)
    rw [inFiles_of_has hhas, ofFile, htext]
    simp only [htoml]
    exact ⟨_, rfl⟩

end CwlCompliance
