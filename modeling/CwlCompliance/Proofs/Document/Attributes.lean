import CwlCompliance.Proofs.Document.Decided
import CwlCompliance.Proofs.Document.Decoding
import CwlCompliance.Proofs.Document.Grammar

/-!
# Which attributes can be read

Each attribute of a process can be read exactly when it has its shape, and it never
fails over a class.

## Main results

* `decided_text`, `decided_doc`, `decided_inputs`, `decided_requirements`,
  `decided_baseCommand` — what decides the reading of each attribute.
* `decided_processClass` — what decides the reading of a class.
-/

namespace CwlCompliance

open Yaml

variable {es fields : Entries} {owner : String}

/-! ### Mappings -/

/-- A mapping, tags aside, is decided by its entries; whatever else has another shape. -/
theorem decided_entries {α : Type} {v : Value} {e : Malformed} {f : Entries → Except Malformed α}
    {P F : Entries → Prop} (he : e.code = shapeCode)
    (h : ∀ es, v.asEntries? = some es → Decided (f es) (P es) (F es)) :
    Decided (match v.asEntries? with | none => .error e | some es => f es)
      (∃ es, v.untag = .mapping es ∧ P es) (∃ es, v.untag = .mapping es ∧ F es) := by
  simp only [← Value.asEntries?_eq_some]
  cases hv : v.asEntries? with
  | none => exact (decided_shape he).congr (by simp) (by simp)
  | some es => exact (h es hv).congr (by simp) (by simp)

/-! ### Texts -/

theorem isScalar_iff {v : Value} : IsScalar v ↔ ∃ s, v.scalarText? = some s := by
  constructor
  · rintro (s | n | b)
    · exact ⟨_, rfl⟩
    · exact ⟨_, rfl⟩
    · exact ⟨_, rfl⟩
  · rintro ⟨s, hs⟩
    cases v with
    | string s => exact .string s
    | number n => exact .number n
    | bool b => exact .bool b
    | null | sequence _ | mapping _ | tagged _ _ => exact nomatch hs

theorem decided_scalar {e : Malformed} (he : e.code = shapeCode) (v : Value) :
    Decided (v.scalarText?.elim (.error e) .ok : Except Malformed String) (IsScalar v) False := by
  rw [isScalar_iff]
  cases v.scalarText? with
  | none => exact (decided_shape he).congr (by simp) Iff.rfl
  | some s => exact (decided_ok s).congr (by simp) Iff.rfl

theorem textShape_some {v : Value} (hv : v ≠ .null) : TextShape (some v) ↔ IsScalar v := by
  constructor
  · rintro (_ | _ | h)
    · exact absurd rfl hv
    · exact h
  · exact .scalar

theorem decided_text (key : String) :
    Decided (Attributes.text es key owner) (TextShape (es.get? key)) False := by
  rw [Attributes.text]
  split
  case h_1 h =>
    rw [h]
    exact (decided_ok none).congr (iff_of_true trivial .absent) Iff.rfl
  case h_2 h =>
    rw [h]
    exact (decided_ok none).congr (iff_of_true trivial .null) Iff.rfl
  case h_3 v hnull h =>
    rw [h, textShape_some hnull, isScalar_iff]
    cases v.scalarText? with
    | none => exact (decided_shape rfl).congr (by simp) Iff.rfl
    | some s => exact (decided_ok _).congr (by simp) Iff.rfl

theorem decided_texts {e : Malformed} (he : e.code = shapeCode) (items : List Value) :
    Decided (Attributes.texts e items) (∀ item ∈ items, IsScalar item) False :=
  decided_mapM_shape fun item _ => decided_scalar he item

theorem decided_doc : Decided (Attributes.doc es owner) (DocShape (es.get? "doc")) False := by
  rw [Attributes.doc]
  split
  case h_1 items h =>
    rw [h]
    refine (decided_texts rfl items).map.congr ⟨.lines, ?_⟩ Iff.rfl
    intro hdoc
    cases hdoc with
    | text text => exact nomatch text
    | lines lines => exact lines
  case h_2 h =>
    refine (decided_text "doc").congr ⟨.text, ?_⟩ Iff.rfl
    intro hdoc
    cases hget : es.get? "doc" with
    | none => exact .absent
    | some v =>
      rw [hget] at hdoc
      cases hdoc with
      | text text => exact text
      | lines _ => exact absurd hget (h _)

/-! ### Inputs -/

theorem decided_listedInput (n : ℕ) (item : Value) :
    Decided (Attributes.listedInput owner n item) (ListedInputShape item) False := by
  rw [Attributes.listedInput]
  refine Decided.congr (decided_entries rfl fun fields _ => (decided_text "id").bindShape
    fun _ _ => (decided_text "label").bindShape fun _ _ => decided_doc.bindShape fun _ _ =>
    decided_ok _) ?_ (by simp)
  constructor
  · rintro ⟨fields, mapping, id, label, doc, -⟩
    exact .intro mapping id label doc
  · rintro ⟨mapping, id, label, doc⟩
    exact ⟨_, mapping, id, label, doc, trivial⟩

theorem decided_keyedInput (e : Value × Value) :
    Decided (Attributes.keyedInput owner e.1 e.2) (KeyedInputShape e) False := by
  rw [Attributes.keyedInput]
  cases hkey : e.1.scalarText? with
  | none =>
    refine (decided_shape rfl).congr (iff_of_false id fun h => ?_) Iff.rfl
    obtain ⟨s, hs⟩ := isScalar_iff.mp h.key
    rw [hkey] at hs
    exact nomatch hs
  | some id =>
    have hscalar : IsScalar e.1 := isScalar_iff.mpr ⟨id, hkey⟩
    cases h : e.2.asEntries? with
    | none =>
      have hno := Value.untag_ne_mapping h
      refine (decided_ok _).congr (iff_of_true trivial ⟨hscalar, ?_, ?_⟩) Iff.rfl
      all_goals exact fun fields hfields => absurd hfields (hno fields)
    | some fields =>
      refine ((decided_text "label").bindShape fun _ _ =>
        decided_doc.bindShape fun _ _ => decided_ok _).congr ?_ (by simp)
      rw [Value.asEntries?_eq_some] at h
      constructor
      · rintro ⟨hlabel, hdoc, -⟩
        refine ⟨hscalar, fun fields' h' => ?_, fun fields' h' => ?_⟩
        all_goals
          rw [h, Value.mapping.injEq] at h'
          subst h'
          assumption
      · intro hshape
        exact ⟨hshape.label fields h, hshape.doc fields h, trivial⟩

theorem decided_inputs :
    Decided (Attributes.inputs es owner) (InputsShape (es.get? "inputs")) False := by
  rw [Attributes.inputs]
  split
  case h_1 h =>
    rw [h]
    exact (decided_ok none).congr (iff_of_true trivial .absent) Iff.rfl
  case h_2 h =>
    rw [h]
    exact (decided_ok none).congr (iff_of_true trivial .null) Iff.rfl
  case h_3 items h =>
    rw [h]
    refine (decided_mapM_zipIdx fun item _ n => decided_listedInput n item).map.congr ?_
      (iff_of_false firstBad_false id)
    exact ⟨.listed, fun | .listed inputs => inputs⟩
  case h_4 entries h =>
    rw [h]
    refine (decided_mapM_shape fun e _ => decided_keyedInput e).map.congr ?_ Iff.rfl
    exact ⟨.keyed, fun | .keyed inputs => inputs⟩
  case h_5 v hnull hlist hmapping h =>
    rw [h]
    refine (decided_shape rfl).congr (iff_of_false id fun hshape => ?_) Iff.rfl
    cases hshape with
    | null => exact hnull rfl
    | listed _ => exact hlist _ rfl
    | keyed _ => exact hmapping _ rfl

/-! ### Docker requirements -/

theorem DockerField.ofKey?_eq_some {s : String} {f : DockerField} :
    DockerField.ofKey? s = some f ↔ f.key = s := by
  constructor
  · intro h
    simpa using List.find?_some h
  · rintro rfl
    cases f <;> decide +kernel

theorem DockerField.ofKey?_eq_none {s : String} :
    DockerField.ofKey? s = none ↔ ∀ f : DockerField, f.key ≠ s := by
  simp only [Option.eq_none_iff_forall_ne_some, ne_eq, ofKey?_eq_some]

theorem Docker.exists_fieldText_eq_ok {v : Value} :
    (∃ t, Docker.fieldText v = .ok t) ↔ v = .null ∨ ∃ s, v.untag = .string s := by
  by_cases hnull : v = .null
  · subst hnull
    exact iff_of_true ⟨none, rfl⟩ (.inl rfl)
  · have htext : Docker.fieldText v =
        v.asString?.elim (.error (.notText v.untag)) fun s => .ok (some s) := by
      rw [Docker.fieldText]
      · cases v.asString? <;> rfl
      · exact hnull
    simp only [htext, ← Value.asString?_eq_some]
    cases v.asString? with
    | none => exact iff_of_false (fun ⟨_, h⟩ => nomatch h) (by simp [hnull])
    | some s => exact iff_of_true ⟨some s, rfl⟩ (.inr ⟨s, rfl⟩)

theorem dockerShape_cons {e : Value × Value} : DockerShape (e :: es) ↔
    (∃ s, e.1.untag = .string s) ∧
      (∀ f : DockerField, e.1.untag = .string f.key →
        (e.2 = .null ∨ ∃ s, e.2.untag = .string s) ∧
          ∀ e' ∈ es, e'.1.untag ≠ .string f.key) ∧ DockerShape es := by
  constructor
  · rintro ⟨hkeys, htexts, honce⟩
    rw [List.forall_mem_cons] at hkeys htexts
    rw [List.pairwise_cons] at honce
    refine ⟨hkeys.1, fun f hf => ⟨htexts.1 f hf, fun e' he' => honce.1 e' he' f hf⟩,
      hkeys.2, htexts.2, honce.2⟩
  · rintro ⟨hkey, hfield, hkeys, htexts, honce⟩
    refine ⟨?_, ?_, ?_⟩
    · rw [List.forall_mem_cons]
      exact ⟨hkey, hkeys⟩
    · rw [List.forall_mem_cons]
      exact ⟨fun f hf => (hfield f hf).1, htexts⟩
    · rw [List.pairwise_cons]
      exact ⟨fun e' he' f hf => (hfield f hf).2 e' he', honce⟩

/-- Entries can be added when they have their shape and give no field that is given. -/
theorem Docker.exists_addEntries_eq_ok {d : Docker} {given : List DockerField} :
    (∃ d', Docker.addEntries d given es = .ok d') ↔
      DockerShape es ∧ ∀ e ∈ es, ∀ f ∈ given, e.1.untag ≠ .string f.key := by
  -- what was added so far counts only by the fields that are given
  induction es generalizing d given with
  | nil => exact iff_of_true ⟨d, rfl⟩ ⟨⟨by simp, by simp, by simp⟩, by simp⟩
  | cons e es ih =>
    obtain ⟨key, value⟩ := e
    rw [Docker.addEntries, dockerShape_cons, List.forall_mem_cons]
    cases hkey : key.asString? with
    | none =>
      simp only [← Value.asString?_eq_some, hkey]
      exact iff_of_false (fun ⟨_, h⟩ => nomatch h) (by simp)
    | some name =>
      rw [Value.asString?_eq_some] at hkey
      dsimp only
      cases hname : DockerField.ofKey? name with
      | none =>
        -- a key that names no field is passed over
        rw [DockerField.ofKey?_eq_none] at hname
        have hno : ∀ f : DockerField, key.untag ≠ .string f.key := by
          intro f hf
          rw [hkey, Value.string.injEq] at hf
          exact hname f hf.symm
        simp only [ih]
        constructor
        · rintro ⟨hshape, hgiven⟩
          exact ⟨⟨⟨name, hkey⟩, fun f hf => absurd hf (hno f), hshape⟩,
            fun f _ => hno f, hgiven⟩
        · rintro ⟨⟨-, -, hshape⟩, -, hgiven⟩
          exact ⟨hshape, hgiven⟩
      | some f =>
        rw [DockerField.ofKey?_eq_some] at hname
        subst hname
        by_cases hgiven : f ∈ given
        · simp only [if_pos hgiven]
          exact iff_of_false (fun ⟨_, h⟩ => nomatch h) fun h => h.2.1 f hgiven hkey
        · simp only [if_neg hgiven]
          have htext := Docker.exists_fieldText_eq_ok (v := value)
          cases hvalue : Docker.fieldText value with
          | error e =>
            refine iff_of_false (fun ⟨_, h⟩ => nomatch h) fun h => ?_
            obtain ⟨t, ht⟩ := htext.mpr (h.1.2.1 f hkey).1
            rw [hvalue] at ht
            exact nomatch ht
          | ok t =>
            have hvalue := htext.mp ⟨t, hvalue⟩
            have hsame : ∀ g : DockerField, key.untag = .string g.key ↔ g = f := by
              intro g
              rw [hkey, Value.string.injEq, eq_comm, ← DockerField.ofKey?_eq_some,
                DockerField.ofKey?_eq_some.mpr rfl, Option.some.injEq, eq_comm]
            simp only [ih, List.forall_mem_cons]
            constructor
            · rintro ⟨hshape, hes⟩
              refine ⟨⟨⟨_, hkey⟩, ?_, hshape⟩, ?_, fun e he => (hes e he).2⟩
              · intro g hg
                rw [(hsame g).mp hg]
                exact ⟨hvalue, fun e he => (hes e he).1⟩
              · intro g hg hkey'
                rw [(hsame g).mp hkey'] at hg
                exact hgiven hg
            · rintro ⟨⟨-, hfield, hshape⟩, -, hes⟩
              exact ⟨hshape, fun e he => ⟨(hfield f hkey).2 e he, hes e he⟩⟩

theorem Docker.exists_ofEntries_eq_ok :
    (∃ d, Docker.ofEntries es = .ok d) ↔ DockerShape es := by
  rw [Docker.ofEntries, Docker.exists_addEntries_eq_ok]
  simp

/-- The class of a requirement is none of the fields of a Docker requirement. -/
theorem dockerShape_filter_class :
    DockerShape (es.filter fun e => e.1.asString? != some "class") ↔ DockerShape es := by
  have hclass : ∀ {e : Value × Value}, e.1.untag = .string "class" →
      ∀ f : DockerField, e.1.untag ≠ .string f.key := by
    intro e he f hf
    rw [he, Value.string.injEq] at hf
    cases f <;> exact absurd hf (by decide)
  induction es with
  | nil => exact Iff.rfl
  | cons e es ih =>
    rw [List.filter_cons]
    by_cases he : e.1.asString? = some "class"
    · rw [if_neg (by simp [he])]
      refine ih.trans ?_
      rw [dockerShape_cons]
      rw [Value.asString?_eq_some] at he
      exact ⟨fun h => ⟨⟨_, he⟩, fun f hf => absurd hf (hclass he f), h⟩, fun h => h.2.2⟩
    · rw [if_pos (by simpa using he), dockerShape_cons, dockerShape_cons]
      have hrest : ∀ f : DockerField,
          (∀ e' ∈ es.filter fun e => e.1.asString? != some "class",
            e'.1.untag ≠ .string f.key) ↔ ∀ e' ∈ es, e'.1.untag ≠ .string f.key := by
        intro f
        constructor
        · intro h e' he' hf
          refine h e' (List.mem_filter.mpr ⟨he', ?_⟩) hf
          rw [bne_iff_ne, ne_eq, Value.asString?_eq_some]
          exact fun hc => hclass hc f hf
        · intro h e' he'
          exact h e' (List.mem_filter.mp he').1
      simp only [hrest]
      exact and_congr_right fun _ => and_congr_right fun _ => ih

/-! ### Requirements -/

variable {list : RequirementList}

theorem decided_requirement (c : String) : Decided (Attributes.requirement list owner c fields)
    (c = dockerClass → DockerShape fields) False := by
  rw [Attributes.requirement]
  by_cases hc : c = dockerClass
  · rw [if_pos hc, ← Docker.exists_ofEntries_eq_ok]
    cases Docker.ofEntries fields with
    | error e => exact (decided_shape rfl).congr (by simp [hc]) Iff.rfl
    | ok d => exact (decided_ok _).congr (by simp) Iff.rfl
  · rw [if_neg hc]
    exact (decided_ok _).congr (iff_of_true trivial fun h => absurd h hc) Iff.rfl

theorem namesClass_iff {name : String} :
    NamesClass fields name ↔ (fields.get? "class").bind Value.asString? = some name := by
  rw [NamesClass, Option.bind_eq_some_iff]
  simp only [Value.asString?_eq_some]

theorem decided_listedRequirement (n : ℕ) (item : Value) :
    Decided (Attributes.listedRequirement list owner n item >>=
      Attributes.readRequirement list owner) (ListedRequirementShape item) False := by
  rw [Attributes.listedRequirement]
  cases h : item.asEntries? with
  | none =>
    show Decided (.error (.requirementNotMapping list n owner)) _ _
    refine (decided_shape rfl).congr (iff_of_false id ?_) Iff.rfl
    rintro ⟨mapping, -, -⟩
    exact Value.untag_ne_mapping h _ mapping
  | some fields =>
    rw [Value.asEntries?_eq_some] at h
    dsimp only
    cases hc : (fields.get? "class").bind Value.asString? with
    | none =>
      show Decided (.error (.requirementWithoutClass list n owner)) _ _
      refine (decided_shape rfl).congr (iff_of_false id ?_) Iff.rfl
      rintro ⟨mapping, names, -⟩
      rw [h, Value.mapping.injEq] at mapping
      rw [namesClass_iff, ← mapping, hc] at names
      exact nomatch names
    | some c =>
      show Decided (Attributes.requirement list owner c
        (fields.filter fun e => e.1.asString? != some "class")) _ _
      refine (decided_requirement c).congr ?_ Iff.rfl
      rw [dockerShape_filter_class]
      constructor
      · exact .intro h (namesClass_iff.mpr hc)
      · rintro ⟨mapping, names, docker⟩
        rw [h, Value.mapping.injEq] at mapping
        subst mapping
        rw [namesClass_iff, hc, Option.some.injEq] at names
        exact names ▸ docker

theorem decided_keyedRequirement (e : Value × Value) :
    Decided (Attributes.keyedRequirement list owner e.1 e.2 >>=
      Attributes.readRequirement list owner) (KeyedRequirementShape e) False := by
  obtain ⟨key, value⟩ := e
  rw [Attributes.keyedRequirement]
  cases hkey : key.asString? with
  | none =>
    show Decided (.error (.requirementKeyNotText list owner)) _ _
    refine (decided_shape rfl).congr (iff_of_false id ?_) Iff.rfl
    rintro (⟨names, -⟩ | names)
    all_goals
      rw [← Value.asString?_eq_some, hkey] at names
      exact nomatch names
  | some c =>
    rw [Value.asString?_eq_some] at hkey
    cases value with
    | mapping fields =>
      show Decided (Attributes.requirement list owner c fields) _ _
      refine (decided_requirement c).congr ⟨.fields hkey, ?_⟩ Iff.rfl
      rintro ⟨names, docker⟩
      rw [hkey, Value.string.injEq] at names
      exact names ▸ docker
    | null =>
      show Decided (Attributes.requirement list owner c []) _ _
      refine (decided_requirement c).congr (iff_of_true ?_ (.null hkey)) Iff.rfl
      exact fun _ => ⟨by simp, by simp, by simp⟩
    | bool _ | number _ | string _ | sequence _ | tagged _ _ =>
      show Decided (.error (.requirementFieldsNotMapping list c owner)) _ _
      exact (decided_shape rfl).congr (iff_of_false id fun h => nomatch h) Iff.rfl

theorem decided_requirements : Decided (Attributes.requirements list es owner)
    (RequirementsShape (es.get? list.key)) False := by
  rw [Attributes.requirements_eq]
  generalize es.get? list.key = value
  match value with
  | none => exact (decided_ok none).congr (iff_of_true trivial .absent) Iff.rfl
  | some .null => exact (decided_ok none).congr (iff_of_true trivial .null) Iff.rfl
  | some (.sequence items) =>
    refine (decided_twice fun x _ => decided_listedRequirement x.2 x.1).map.congr ?_ Iff.rfl
    rw [forall_mem_zipIdx_fst]
    exact ⟨.listed, fun | .listed requirements => requirements⟩
  | some (.mapping bodies) =>
    refine (decided_twice fun e _ => decided_keyedRequirement e).map.congr ?_ Iff.rfl
    exact ⟨.keyed, fun | .keyed requirements => requirements⟩
  | some (.bool _) | some (.number _) | some (.string _) | some (.tagged _ _) =>
    exact (decided_shape rfl).congr (iff_of_false id fun h => nomatch h) Iff.rfl

/-! ### Commands -/

theorem decided_baseCommand :
    Decided (Attributes.baseCommand es owner) (CommandShape (es.get? "baseCommand")) False := by
  rw [Attributes.baseCommand]
  generalize es.get? "baseCommand" = value
  match value with
  | none => exact (decided_ok none).congr (iff_of_true trivial .absent) Iff.rfl
  | some .null => exact (decided_ok none).congr (iff_of_true trivial .null) Iff.rfl
  | some (.sequence items) =>
    refine (decided_texts rfl items).map.congr ⟨.words, ?_⟩ Iff.rfl
    rintro (_ | _ | _ | words)
    · contradiction
    · exact words
  | some (.bool b) =>
    exact (decided_ok _).congr (iff_of_true trivial (.word (.bool b))) Iff.rfl
  | some (.number n) =>
    exact (decided_ok _).congr (iff_of_true trivial (.word (.number n))) Iff.rfl
  | some (.string s) =>
    exact (decided_ok _).congr (iff_of_true trivial (.word (.string s))) Iff.rfl
  | some (.mapping _) | some (.tagged _ _) =>
    refine (decided_shape rfl).congr (iff_of_false id ?_) Iff.rfl
    rintro (_ | _ | word)
    exact nomatch word

/-! ### Classes -/

theorem ProcessClass.ofName?_eq_some {s : String} {c : ProcessClass} :
    ProcessClass.ofName? s = some c ↔ c.name = s := by
  constructor
  · intro h
    simpa using List.find?_some h
  · rintro rfl
    cases c <;> decide +kernel

/-- A class can be read when it is one; everything that can go wrong is about it. -/
theorem decided_processClass : Decided (Attributes.processClass es owner)
    (∃ c, HasClass es c) (∀ c, ¬HasClass es c) := by
  simp only [HasClass, namesClass_iff, Attributes.processClass]
  cases (es.get? "class").bind Value.asString? with
  | none => exact (decided_class rfl).congr (by simp) (by simp)
  | some s =>
    dsimp only
    cases hs : ProcessClass.ofName? s with
    | none =>
      have hno : ∀ c : ProcessClass, ¬some s = some c.name := by
        intro c hc
        rw [Option.some.injEq, eq_comm, ← ProcessClass.ofName?_eq_some, hs] at hc
        exact nomatch hc
      exact (decided_class rfl).congr (by simpa using hno) (by simpa using hno)
    | some c =>
      have hc := (ProcessClass.ofName?_eq_some.mp hs).symm
      exact (decided_ok c).congr (iff_of_true trivial ⟨c, congrArg some hc⟩)
        (iff_of_false id fun h => h c (congrArg some hc))

theorem hasClass_of_processClass {c : ProcessClass} (h : Attributes.processClass es owner = .ok c) :
    HasClass es c := by
  rw [HasClass, namesClass_iff]
  rw [Attributes.processClass] at h
  cases hs : (es.get? "class").bind Value.asString? with
  | none =>
    rw [hs] at h
    exact nomatch h
  | some s =>
    rw [hs] at h
    dsimp only at h
    cases hname : ProcessClass.ofName? s with
    | none =>
      rw [hname] at h
      exact nomatch h
    | some c' =>
      rw [hname] at h
      cases h
      rw [ProcessClass.ofName?_eq_some.mp hname]

theorem HasClass.unique {c c' : ProcessClass} (h : HasClass es c) (h' : HasClass es c') :
    c = c' := by
  rw [HasClass, namesClass_iff] at h h'
  rw [h, Option.some.injEq, eq_comm, ← ProcessClass.ofName?_eq_some,
    ProcessClass.ofName?_eq_some.mpr rfl, Option.some.injEq] at h'
  exact h'

end CwlCompliance
