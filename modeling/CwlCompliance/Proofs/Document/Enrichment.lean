import CwlCompliance.Proofs.Checks.Finding
import CwlCompliance.Proofs.Document.Edits
import CwlCompliance.Proofs.Document.Precedence
import CwlCompliance.Proofs.Document.Rewriting
import CwlCompliance.Proofs.Document.Surroundings

/-!
# Documents with more metadata

A mapping that gives what another gives under the keys for metadata, and is the same under
those of attributes, declares the same process with the same or more metadata.  This is
carried from the mapping of one process to those around it, and to the document.

## Main definitions

* `SamePlain`, `CwlProcess.Enriched` — the same process but for its metadata, and with the
  same or more of it.
* `ReadPlain`, `GivesAll`, `EntriesEnriched` — the same for the mappings that declare them.
* `RootEnriched` — the same for the roots of documents.

## Main results

* `Provenance.has_resolve_iff` — which fields a workflow has.
* `readPlain_of_get?`, `readPlain_amendInner` — what is read after an edit.
* `follows_readProcesses`, `follows_document` — **a document with more metadata declares
  the same processes with the same or more metadata.**
-/

namespace CwlCompliance

open Yaml

variable {prefixes prefixes' : List String} {es es' : Entries}

/-! ### Processes with more metadata -/

/-- Two processes are the same but for their metadata, and so are those declared in them. -/
abbrev SamePlain : CwlProcess → CwlProcess → Prop := SameUnder fun _ => []

/-- The second process is the first with the same fields of metadata, or more. -/
structure CwlProcess.Enriched (w w' : CwlProcess) : Prop where
  /-- They are the same but for their metadata. -/
  plain : SamePlain w w'
  /-- A field of the first is one of the second. -/
  kept : ∀ f, w.provenance.has f = true → w'.provenance.has f = true

theorem SamePlain.processClass {w w' : CwlProcess} (h : SamePlain w w') :
    w.processClass = w'.processClass := by
  rw [SamePlain, SameUnder, CwlProcess.mapMetadata_eq, CwlProcess.mapMetadata_eq,
    CwlProcess.mk.injEq] at h
  exact h.1

theorem SamePlain.id {w w' : CwlProcess} (h : SamePlain w w') : w.id = w'.id := by
  rw [SamePlain, SameUnder, CwlProcess.mapMetadata_eq, CwlProcess.mapMetadata_eq,
    CwlProcess.mk.injEq] at h
  exact h.2.1

/-! ### Mappings that give more -/

/-- What one mapping gives under the keys for metadata another gives too, though perhaps with
other values. -/
def GivesAll (prefixes : List String) (es es' : Entries) : Prop :=
  ∀ f : ProvenanceField, ∀ key ∈ f.keys prefixes, ∀ u, Gives es key u → ∃ u', Gives es' key u'

/-- What is read from one mapping is read from another, but for its metadata. -/
def ReadPlain (es es' : Entries) : Prop :=
  ∀ around around' origin origin', Follows SamePlain (CwlProcess.ofEntries around origin es)
    (CwlProcess.ofEntries around' origin' es')

/-- A mapping declares the same process as another and gives the same or more metadata. -/
structure EntriesEnriched (prefixes : List String) (es es' : Entries) : Prop where
  /-- It declares the same process. -/
  plain : ReadPlain es es'
  /-- It gives the same or more metadata. -/
  given : GivesAll prefixes es es'

theorem GivesAll.refl (es : Entries) : GivesAll prefixes es es := fun _ _ _ u hu => ⟨u, hu⟩

/-- Whatever stands under the keys for metadata may change as long as it is not taken away. -/
theorem givesAll_of_get? (h : ∀ f : ProvenanceField, ∀ key ∈ f.keys prefixes,
    es'.get? key = es.get? key ∨ ∃ u, Gives es' key u) : GivesAll prefixes es es' := by
  intro f key hkey u hu
  rcases h f key hkey with hsame | hgives
  · exact ⟨u, hsame.trans hu.1, hu.2⟩
  · exact hgives

theorem exists_firstGiven_iff {l : List (Entries × String)} :
    (∃ v, FirstGiven l v) ↔ ∃ x ∈ l, ∃ u, Gives x.1 x.2 u := by
  constructor
  · rintro ⟨v, before, x, after, rfl, hx, -⟩
    exact ⟨x, by simp, v, hx⟩
  · rintro ⟨x, hx, u, hu⟩
    cases hfound : l.findSome? fun x => (x.1.get? x.2).filter fun u => !u.isNull with
    | none =>
      rw [List.findSome?_eq_none_iff] at hfound
      exact absurd hu (filter_isNull_eq_none_iff.mp (hfound x hx) u)
    | some v => exact ⟨v, findSome?_eq_some_iff_firstGiven.mp hfound⟩

/-- A workflow has a field when it is given under one of its keys, in the mapping of the
workflow or at the root that it sees. -/
theorem Provenance.has_resolve_iff {f : ProvenanceField} {seen : Option Entries} :
    (resolve prefixes es seen).has f = true ↔
      ∃ m, (m = es ∨ seen = some m) ∧ ∃ key ∈ f.keys prefixes, ∃ u,
        Gives m key u := by
  rw [has_eq_true_iff]
  simp only [mem_resolve, exists_firstGiven_iff, lookups, List.mem_append, List.mem_map,
    List.mem_flatMap, Option.mem_toList]
  constructor
  · rintro ⟨-, ⟨key, hkey, rfl⟩ | ⟨root, hroot, key, hkey, rfl⟩, u, hu⟩
    · exact ⟨es, .inl rfl, key, hkey, u, hu⟩
    · exact ⟨root, .inr hroot, key, hkey, u, hu⟩
  · rintro ⟨m, rfl | hroot, key, hkey, u, hu⟩
    · exact ⟨_, .inl ⟨key, hkey, rfl⟩, u, hu⟩
    · exact ⟨_, .inr ⟨m, hroot, key, hkey, rfl⟩, u, hu⟩

theorem mem_keys_of_subset (h : prefixes ⊆ prefixes') {f : ProvenanceField} {key : String}
    (hkey : key ∈ f.keys prefixes) : key ∈ f.keys prefixes' := by
  rw [← candidates_eq_keys, Provenance.candidates, List.mem_flatMap] at hkey ⊢
  obtain ⟨name, hname, hkey⟩ := hkey
  refine ⟨name, hname, ?_⟩
  rcases List.mem_cons.mp hkey with rfl | hkey
  · exact List.mem_cons_self
  · obtain ⟨pre, hpre, rfl⟩ := List.mem_map.mp hkey
    exact List.mem_cons_of_mem _ (List.mem_map_of_mem (h hpre))

/-- A mapping with more metadata, under more prefixes and with more metadata at the root that
is seen, declares the same process with more metadata. -/
theorem EntriesEnriched.follows (h : EntriesEnriched prefixes es es')
    (hprefixes : prefixes ⊆ prefixes') {seen seen' : Option Entries}
    (hseen : Option.Rel (GivesAll prefixes) seen seen') (origin origin' : String) :
    Follows CwlProcess.Enriched (CwlProcess.ofEntries ⟨prefixes, seen⟩ origin es)
      (CwlProcess.ofEntries ⟨prefixes', seen'⟩ origin' es') := by
  intro w hw
  obtain ⟨w', hw', hplain⟩ := h.plain _ ⟨prefixes', seen'⟩ _ origin' w hw
  refine ⟨w', hw', hplain, fun f hf => ?_⟩
  have hmetadata := CwlProcess.provenance_ofEntries hw
  have hmetadata' := CwlProcess.provenance_ofEntries hw'
  rw [← hplain.processClass] at hmetadata'
  by_cases hc : w.processClass = .workflow
  · rw [if_pos hc] at hmetadata hmetadata'
    rw [hmetadata, Provenance.has_resolve_iff] at hf
    rw [hmetadata', Provenance.has_resolve_iff]
    obtain ⟨m, hm, key, hkey, u, hu⟩ := hf
    have hkey' := mem_keys_of_subset hprefixes hkey
    rcases hm with rfl | rfl
    · obtain ⟨u', hu'⟩ := h.given f key hkey u hu
      exact ⟨es', .inl rfl, key, hkey', u', hu'⟩
    · obtain ⟨u', hu'⟩ : ∃ root', seen' = some root' ∧ ∃ u', Gives root' key u' := by
        cases hseen with
        | some hroot => exact ⟨_, rfl, hroot f key hkey u hu⟩
      exact ⟨u', .inr hu'.1, key, hkey', hu'.2⟩
  · rw [if_neg hc] at hmetadata
    rw [hmetadata] at hf
    exact absurd hf (by simp [Provenance.has, Provenance.get?])

/-! ### Other entries -/

/-- The keys under which a document is looked up for anything but metadata. -/
def reservedKeys : List String :=
  ["class", "id", "label", "doc", "inputs", "requirements", "hints", "baseCommand", "steps",
    "$graph", "$namespaces"]

/-- No key for metadata is one of those. -/
theorem notMem_reservedKeys {f : ProvenanceField} {key : String} (h : key ∈ f.keys prefixes) :
    key ∉ reservedKeys := by
  rw [← candidates_eq_keys] at h
  exact notMem_of_mem_candidates (by decide +kernel)
    (fun field => by cases field <;> decide +kernel) h

theorem sameAttributes_of_get? (h : ∀ name ∈ reservedKeys, name ≠ "steps" → name ≠ "$graph" →
    name ≠ "$namespaces" → es.get? name = es'.get? name) : SameAttributes es es' where
  processClass := h _ (by decide) (by decide) (by decide) (by decide)
  id := h _ (by decide) (by decide) (by decide) (by decide)
  label := h _ (by decide) (by decide) (by decide) (by decide)
  doc := h _ (by decide) (by decide) (by decide) (by decide)
  inputs := h _ (by decide) (by decide) (by decide) (by decide)
  requirements list := by
    cases list <;> exact h _ (by decide) (by decide) (by decide) (by decide)
  baseCommand := h _ (by decide) (by decide) (by decide) (by decide)

theorem readInPlace_plain (prefixes prefixes' : List String) (es : Entries) :
    ReadInPlace (fun _ => []) prefixes prefixes' es es :=
  @readInPlace_same (fun _ => []) prefixes prefixes' (fun _ => rfl) es

/-- What stands under other keys does not matter, but for the metadata. -/
theorem readPlain_of_get? (h : ∀ name ∈ reservedKeys, name ≠ "$graph" → name ≠ "$namespaces" →
    es.get? name = es'.get? name) : ReadPlain es es' := by
  intro around around' origin origin'
  have hsteps : Option.Rel (StepsRead (fun _ => []) around.prefixes around'.prefixes)
      (es.get? "steps") (es'.get? "steps") := by
    rw [← h "steps" (by decide) (by decide) (by decide)]
    exact stepsRead_same fun es _ => readInPlace_plain _ _ es
  exact follows_ofEntries (sameAttributes_of_get? fun name hname _ => h name hname) rfl
    (follows_steps hsteps) origin origin'

theorem ReadPlain.refl (es : Entries) : ReadPlain es es := readPlain_of_get? fun _ _ _ _ => rfl

theorem EntriesEnriched.refl (es : Entries) : EntriesEnriched prefixes es es :=
  ⟨.refl es, .refl es⟩

section Amend

variable {f : Entries → Entries}

/-- A step in which what it declares in place is changed. -/
theorem stepRead_amendStep (hf : ∀ es, ReadPlain es (f es)) (item : Value) :
    StepRead (fun _ => []) prefixes prefixes' item (amendStep f item) := by
  intro fields hitem
  refine ⟨Entries.amend "run" (Value.mapEntries f) fields, ?_,
    (Entries.get?_amend_of_ne (by decide) fields).symm, fun owner owner' => ?_⟩
  · rw [amendStep, Value.asEntries?_mapEntries, hitem, Option.map_some]
  rw [Steps.targetIn_eq, Steps.targetIn_eq, Entries.get?_amend_self]
  cases fields.get? "run" with
  | none => exact follows_ok rfl
  | some v =>
    rw [Option.map_some]
    cases v with
    | mapping es =>
      exact follows_targetOf (.inr ⟨es, f es, rfl, rfl, hf es _ _⟩) owner owner'
    | tagged tag v =>
      dsimp only
      rw [Steps.targetOf]
      · exact follows_error _
      all_goals simp
    | null | bool _ | number _ | string _ | sequence _ =>
      refine follows_targetOf (.inl ⟨rfl, ?_⟩) owner owner'
      rintro es ⟨⟩

/-- A change of one of several. -/
theorem forall₂_modify {α : Type*} {R : α → α → Prop} {g : α → α} (hrefl : ∀ a, R a a)
    (hg : ∀ a, R a (g a)) : ∀ (l : List α) (i : ℕ), List.Forall₂ R l (l.modify i g)
  | [], i => by simp
  | a :: l, 0 => by
    rw [List.modify_zero_cons]
    exact .cons (hg a) (List.forall₂_same.mpr fun b _ => hrefl b)
  | a :: l, i + 1 => by
    rw [List.modify_succ_cons]
    exact .cons (hrefl a) (forall₂_modify hrefl hg l i)

/-- A change of what is declared in place keeps what is around it, but for the metadata. -/
theorem readPlain_amendInner (hf : ∀ es, ReadPlain es (f es)) (path : List ℕ) :
    ∀ es, ReadPlain es (amendInner f path es) := by
  induction path with
  | nil => exact hf
  | cons i path ih =>
    intro es around around' origin origin'
    have hother : ∀ {name}, name ≠ "steps" →
        es.get? name = Entries.get? (amendInner f (i :: path) es) name := by
      intro name hname
      exact (Entries.get?_amend_of_ne hname es).symm
    have hsame : ∀ item, StepRead (fun _ => []) around.prefixes around'.prefixes item item :=
      fun item => stepRead_same fun _ es _ _ => readInPlace_plain _ _ es
    have hamended : ∀ item, StepRead (fun _ => []) around.prefixes around'.prefixes item
        (amendStep (amendInner f path) item) := fun item => stepRead_amendStep ih item
    have hsteps : Option.Rel (StepsRead (fun _ => []) around.prefixes around'.prefixes)
        (es.get? "steps") (Entries.get? (amendInner f (i :: path) es) "steps") := by
      rw [amendInner, Entries.get?_amend_self]
      cases es.get? "steps" with
      | none => exact .none
      | some v =>
        refine .some ?_
        cases v with
        | sequence items => exact .listed (forall₂_modify hsame hamended items i)
        | mapping bodies =>
          exact .keyed (forall₂_modify (fun e => ⟨rfl, hsame e.2⟩)
            (fun e => ⟨rfl, hamended e.2⟩) bodies i)
        | null | bool _ | number _ | string _ | tagged _ _ =>
          exact .other (by simp) (by simp)
    exact follows_ofEntries (sameAttributes_of_get? fun name _ hname _ _ => hother hname) rfl
      (follows_steps hsteps) origin origin'

end Amend

/-! ### Documents -/

/-- The root of a document declares the same processes as another and gives the same or more
metadata. -/
structure RootEnriched (prefixes : List String) (root root' : Entries) : Prop where
  /-- If there is a graph, there is one with the same number of items, each with the same or
  more metadata. -/
  graph : Option.Rel (fun graph graph' : Value => ∀ items, graph.asItems? = some items →
      ∃ items', graph'.asItems? = some items' ∧ List.Forall₂ (fun item item' : Value =>
        ∀ es, item.asEntries? = some es → ∃ es', item'.asEntries? = some es' ∧
          EntriesEnriched prefixes es es') items items')
    (root.get? "$graph") (root'.get? "$graph")
  /-- If there is none, the process is the same. -/
  single : root.get? "$graph" = none → ReadPlain root root'
  /-- The root gives the same or more. -/
  given : GivesAll prefixes root root'

variable {root root' : Entries}

theorem follows_readItem {item item' : Value} (hitem : ∀ es, item.asEntries? = some es →
      ∃ es', item'.asEntries? = some es' ∧ EntriesEnriched prefixes es es')
    (hprefixes : prefixes ⊆ prefixes') (hgiven : GivesAll prefixes root root') (n : ℕ) :
    Follows CwlProcess.Enriched (Document.readItem ⟨prefixes, some root⟩ n item)
      (Document.readItem ⟨prefixes', some root'⟩ n item') := by
  rw [Document.readItem, Document.readItem]
  cases hes : item.asEntries? with
  | none => exact follows_error _
  | some es =>
    obtain ⟨es', hes', henriched⟩ := hitem es hes
    rw [hes']
    exact henriched.follows hprefixes (.some hgiven) _ _

/-- A document with more metadata declares the same processes with more metadata. -/
theorem follows_readProcesses (h : RootEnriched prefixes root root')
    (hprefixes : prefixes ⊆ prefixes') :
    Follows (List.Forall₂ CwlProcess.Enriched) (Document.readProcesses prefixes root)
      (Document.readProcesses prefixes' root') := by
  rw [Document.readProcesses, Document.readProcesses]
  have hgraph := h.graph
  cases hroot : root.get? "$graph" with
  | none =>
    rw [hroot] at hgraph
    generalize root'.get? "$graph" = value' at hgraph
    cases hgraph
    have henriched : EntriesEnriched prefixes root root' := ⟨h.single hroot, h.given⟩
    exact (henriched.follows hprefixes .none _ _).bind fun p p' hp =>
      follows_ok (.cons hp .nil)
  | some graph =>
    rw [hroot] at hgraph
    generalize root'.get? "$graph" = value' at hgraph
    cases hgraph with
    | @some _ graph' hitems =>
      dsimp only
      cases hlist : graph.asItems? with
      | none => exact follows_error _
      | some items =>
        obtain ⟨items', hlist', hall⟩ := hitems items hlist
        rw [hlist']
        refine follows_mapM (forall₂_zipIdx (hall.imp ?_) 1)
        exact fun item item' hitem n => follows_readItem hitem hprefixes h.given n

/-- So does the document as a whole, if its namespaces can be read. -/
theorem follows_document {v v' : Value} (hroot : v.asEntries? = some root)
    (hroot' : v'.asEntries? = some root')
    (h : ∀ ns, Document.readNamespaces root = .ok ns → ∃ ns',
      Document.readNamespaces root' = .ok ns' ∧ ns.map Prod.fst ⊆ ns'.map Prod.fst ∧
        RootEnriched (ns.map Prod.fst) root root') :
    Follows (fun d d' : Document => List.Forall₂ CwlProcess.Enriched d.processes d'.processes)
      (Document.ofValue v) (Document.ofValue v') := by
  intro d hd
  obtain ⟨r, hr, hns, hps⟩ := exists_of_ofValue_eq_ok hd
  obtain rfl : root = r := Option.some.inj (hroot.symm.trans hr)
  obtain ⟨ns', hns', hprefixes, henriched⟩ := h _ hns
  obtain ⟨ps', hps', hall⟩ := follows_readProcesses henriched hprefixes _ hps
  obtain ⟨d', hd', rfl⟩ := exists_document_of_read hroot' hns' hps'
  exact ⟨d', hd', hall⟩

end CwlCompliance
