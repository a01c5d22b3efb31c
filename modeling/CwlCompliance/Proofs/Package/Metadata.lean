import CwlCompliance.Proofs.Document.Acceptance
import CwlCompliance.Proofs.Package.Enrichment
import Mathlib.Data.List.InsertIdx

/-!
# Adding metadata

Metadata is added to a document by declaring a prefix, or by an entry under one of the keys
for metadata, at its root or in the mapping that declares a process.  Whatever is added, the
document still declares the same processes, and nothing new is said to be missing.  How the
declared prefixes are ordered, and which URIs they stand for, makes no difference at all.

## Main definitions

* `IsMetadataKey` — a key under which a field of the metadata may be given.
* `Addition` — what may be added, with `Addition.Proper` and `Addition.apply`.
* `Redeclared` — the same prefixes in another order, or for other URIs.

## Main results

* `EntriesEnriched.insert`, `rootEnriched_amendAt` — what an entry adds where it is put.
* `Addition.rootEnriched_apply`, `Addition.exists_readNamespaces_apply` — what any addition
  adds to the root.
* `metadata_never_hurts` — **the more metadata, the fewer issues.**
-/

namespace CwlCompliance

open Yaml

variable {prefixes : List String} {root root' es : Entries} {f : Entries → Entries}

/-! ### Entries for metadata -/

/-- A field of the metadata may be given under this key. -/
def IsMetadataKey (prefixes : List String) (key : String) : Prop :=
  ∃ f : ProvenanceField, key ∈ f.keys prefixes

theorem IsMetadataKey.ne {key name : String} (h : IsMetadataKey prefixes key)
    (hname : name ∈ reservedKeys) : name ≠ key := by
  rintro rfl
  obtain ⟨f, hf⟩ := h
  exact notMem_reservedKeys hf hname

/-- An entry for metadata that is not null enriches the mapping that it is put in. -/
theorem EntriesEnriched.insert {key : String} {v : Value} (hkey : IsMetadataKey prefixes key)
    (hv : v.untag ≠ .null) (position : ℕ) (es : Entries) :
    EntriesEnriched prefixes es (Entries.insert position key v es) where
  plain := readPlain_of_get? fun name hname _ _ =>
    (Entries.get?_insert_of_ne (hkey.ne hname) position es).symm
  given := by
    refine givesAll_of_get? fun f other _ => ?_
    by_cases hother : other = key
    · subst hother
      obtain hnew | hold := @Entries.get?_insert_self other v position es
      · exact .inr ⟨v, hnew, hv⟩
      · exact .inl hold
    · exact .inl (Entries.get?_insert_of_ne hother position es)

/-! ### The root -/

/-- What stands under the keys for metadata may grow, and the declared prefixes may change. -/
theorem RootEnriched.of_get? (hgiven : GivesAll prefixes root root')
    (h : ∀ name ∈ reservedKeys, name ≠ "$namespaces" → root.get? name = root'.get? name) :
    RootEnriched prefixes root root' where
  graph := by
    rw [← h "$graph" (by decide) (by decide)]
    cases root.get? "$graph" with
    | none => exact .none
    | some graph =>
      refine .some fun items hitems => ⟨items, hitems, List.forall₂_same.mpr ?_⟩
      exact fun item _ es hes => ⟨es, hes, .refl es⟩
  single _ := readPlain_of_get? fun name hname _ hne => h name hname hne
  given := hgiven

/-- What enriches a mapping enriches those around it. -/
theorem entriesEnriched_amendInner (hf : ∀ es, EntriesEnriched prefixes es (f es))
    (path : List ℕ) (es : Entries) : EntriesEnriched prefixes es (amendInner f path es) where
  plain := readPlain_amendInner (fun es => (hf es).plain) path es
  given := by
    cases path with
    | nil => exact (hf es).given
    | cons i path =>
      refine givesAll_of_get? fun field key hkey => .inl (Entries.get?_amend_of_ne ?_ es)
      rintro rfl
      exact notMem_reservedKeys hkey (by decide)

/-- What enriches a mapping enriches the document in which it declares a process. -/
theorem rootEnriched_amendAt (hf : ∀ es, EntriesEnriched prefixes es (f es))
    (hgraph : ∀ es, (f es).get? "$graph" = es.get? "$graph") (a : Place) (root : Entries) :
    RootEnriched prefixes root (amendAt f a root) := by
  have hrefl : RootEnriched prefixes root root := .of_get? (.refl root) fun _ _ _ => rfl
  cases a with
  | nil => exact hrefl
  | cons i path =>
    rw [amendAt]
    cases hroot : root.get? "$graph" with
    | none =>
      dsimp only
      by_cases hi : i = 0
      · rw [if_pos hi]
        have henriched := entriesEnriched_amendInner hf path root
        have hsingle : (amendInner f path root).get? "$graph" = none :=
          (get?_amendInner hgraph (by decide) path root).trans hroot
        refine ⟨?_, fun _ => henriched.plain, henriched.given⟩
        rw [hroot, hsingle]
        exact .none
      · rw [if_neg hi]
        exact hrefl
    | some graph =>
      dsimp only
      refine ⟨?_, fun hnone => ?_, ?_⟩
      · rw [Entries.get?_amend_self, hroot, Option.map_some]
        refine .some fun items hitems => ⟨_, by rw [Value.asItems?_mapItems, hitems]; rfl, ?_⟩
        refine forall₂_modify (fun item es hes => ⟨es, hes, .refl es⟩) ?_ items i
        intro item es hes
        refine ⟨amendInner f path es, ?_, entriesEnriched_amendInner hf path es⟩
        rw [Value.asEntries?_mapEntries, hes, Option.map_some]
      · rw [hroot] at hnone
        cases hnone
      · refine givesAll_of_get? fun field key hkey => .inl (Entries.get?_amend_of_ne ?_ root)
        rintro rfl
        exact notMem_reservedKeys hkey (by decide)

/-! ### Declared prefixes -/

theorem exists_readNamespaces_iff : (∃ ns, Document.readNamespaces root = .ok ns) ↔
    NamespacesShape (root.get? "$namespaces") :=
  decided_namespaces.ok

/-- A prefix is declared by an entry of the mapping of namespaces. -/
theorem mem_declaredPrefixes {v : Value} {declared : Entries} {pre : String}
    (hv : root.get? "$namespaces" = some v) (hdeclared : v.asEntries? = some declared) :
    pre ∈ declaredPrefixes root ↔ ∃ key ∈ declared.map Prod.fst, key.asString? = some pre := by
  rw [declaredPrefixes, hv]
  dsimp only
  rw [hdeclared, Option.getD_some, List.mem_eraseDups, List.mem_filterMap]
  simp only [List.mem_map, exists_exists_and_eq_and]

/-- Namespaces that can be read in one document and keep their keys in another, where their
URIs are texts, can be read there, and no prefix is lost. -/
theorem exists_readNamespaces_of_keys {v v' : Value} {declared declared' : Entries}
    (hv : root.get? "$namespaces" = some v) (hdeclared : v.asEntries? = some declared)
    (hv' : root'.get? "$namespaces" = some v') (hdeclared' : v'.asEntries? = some declared')
    (hsubset : declared.map Prod.fst ⊆ declared'.map Prod.fst)
    (hkeys : ∀ e ∈ declared', e.1 ∈ declared.map Prod.fst ∨ ∃ s, e.1.untag = .string s)
    (huris : ∀ e ∈ declared', ∃ s, e.2.untag = .string s) {ns : List (String × String)}
    (hns : Document.readNamespaces root = .ok ns) :
    ∃ ns', Document.readNamespaces root' = .ok ns' ∧ ns.map Prod.fst ⊆ ns'.map Prod.fst := by
  have hshape := exists_readNamespaces_iff.mp ⟨ns, hns⟩
  rw [hv] at hshape
  obtain ⟨ns', hns'⟩ : ∃ ns', Document.readNamespaces root' = .ok ns' := by
    rw [exists_readNamespaces_iff, hv']
    cases hshape with
    | mapping hmapping hkeysOld _ =>
      rw [← Value.asEntries?_eq_some, hdeclared] at hmapping
      obtain rfl := Option.some.inj hmapping
      refine .mapping (Value.asEntries?_eq_some.mp hdeclared') (fun e he => ?_) huris
      rcases hkeys e he with hold | htext
      · obtain ⟨e', he', hkey⟩ := List.mem_map.mp hold
        exact hkey ▸ hkeysOld e' he'
      · exact htext
  refine ⟨ns', hns', fun pre hpre => ?_⟩
  rw [map_fst_readNamespaces hns, mem_declaredPrefixes hv hdeclared] at hpre
  rw [map_fst_readNamespaces hns', mem_declaredPrefixes hv' hdeclared']
  obtain ⟨key, hkey, htext⟩ := hpre
  exact ⟨key, hsubset hkey, htext⟩

/-! ### Additions -/

/-- Something added to the metadata of a document. -/
inductive Addition where
  /-- Another prefix, for some URI, at a position among those declared. -/
  | declaration (position : ℕ) (pre uri : String)
  /-- An entry at the root. -/
  | atRoot (position : ℕ) (key : String) (v : Value)
  /-- An entry in the mapping that declares the process at a place. -/
  | inProcess (a : Place) (position : ℕ) (key : String) (v : Value)

namespace Addition

/-- What an addition makes of the root of a document. -/
def apply : Addition → Entries → Entries
  | declaration position pre uri, root =>
    match root.get? "$namespaces" with
    | none =>
      Entries.insert position "$namespaces" (.mapping [(.string pre, .string uri)]) root
    | some _ =>
      Entries.amend "$namespaces" (Value.mapEntries (Entries.insert position pre (.string uri)))
        root
  | atRoot position key v, root => Entries.insert position key v root
  | inProcess a position key v, root => amendAt (Entries.insert position key v) a root

/-- An entry that is added has a key for metadata and is not null. -/
def Proper (prefixes : List String) : Addition → Prop
  | declaration .. => True
  | atRoot _ key v => IsMetadataKey prefixes key ∧ v.untag ≠ .null
  | inProcess _ _ key v => IsMetadataKey prefixes key ∧ v.untag ≠ .null

/-- No key but that of the namespaces has another value when a prefix is declared. -/
theorem get?_apply_declaration {name : String} (hname : name ≠ "$namespaces") (position : ℕ)
    (pre uri : String) (root : Entries) :
    (apply (declaration position pre uri) root).get? name = root.get? name := by
  rw [apply]
  cases root.get? "$namespaces" with
  | none => exact Entries.get?_insert_of_ne hname position root
  | some v => exact Entries.get?_amend_of_ne hname root

/-- An addition adds to the metadata and changes nothing else. -/
theorem rootEnriched_apply {edit : Addition} (h : edit.Proper prefixes) (root : Entries) :
    RootEnriched prefixes root (edit.apply root) := by
  cases edit with
  | declaration position pre uri =>
    refine .of_get? (givesAll_of_get? fun f key hkey => .inl (get?_apply_declaration ?_ _ _ _ _))
      fun name _ hname => (get?_apply_declaration hname _ _ _ _).symm
    rintro rfl
    exact notMem_reservedKeys hkey (by decide)
  | atRoot position key v =>
    refine .of_get? (EntriesEnriched.insert h.1 h.2 position root).given fun name hname _ => ?_
    exact (Entries.get?_insert_of_ne (h.1.ne hname) position root).symm
  | inProcess a position key v =>
    refine rootEnriched_amendAt (EntriesEnriched.insert h.1 h.2 position) (fun es => ?_) a root
    exact Entries.get?_insert_of_ne (h.1.ne (by decide)) position es

/-- A prefix may be declared where none was. -/
theorem exists_readNamespaces_first {position : ℕ} {pre uri : String} {root : Entries}
    (hroot : root.get? "$namespaces" = none) {ns : List (String × String)}
    (hns : Document.readNamespaces root = .ok ns) :
    ∃ ns', Document.readNamespaces (apply (declaration position pre uri) root) = .ok ns' ∧
      ns.map Prod.fst ⊆ ns'.map Prod.fst := by
  have hnil : ns.map Prod.fst = [] := by
    rw [map_fst_readNamespaces hns, declaredPrefixes, hroot]
  obtain ⟨ns', hns'⟩ : ∃ ns',
      Document.readNamespaces (apply (declaration position pre uri) root) = .ok ns' := by
    rw [exists_readNamespaces_iff, apply, hroot]
    dsimp only
    obtain hnew | hold := @Entries.get?_insert_self "$namespaces"
      (.mapping [(.string pre, .string uri)]) position root
    · rw [hnew]
      exact .mapping rfl (by simp [Value.untag]) (by simp [Value.untag])
    · rw [hold, hroot]
      exact .absent
  exact ⟨ns', hns', by rw [hnil]; exact List.nil_subset _⟩

/-- A prefix may be declared beside others. -/
theorem exists_readNamespaces_further {position : ℕ} {pre uri : String} {root : Entries}
    {v : Value} (hroot : root.get? "$namespaces" = some v) {ns : List (String × String)}
    (hns : Document.readNamespaces root = .ok ns) :
    ∃ ns', Document.readNamespaces (apply (declaration position pre uri) root) = .ok ns' ∧
      ns.map Prod.fst ⊆ ns'.map Prod.fst := by
  have hshape := exists_readNamespaces_iff.mp ⟨ns, hns⟩
  rw [hroot] at hshape
  obtain ⟨declared, hmapping, huris⟩ : ∃ declared, v.asEntries? = some declared ∧
      ∀ e ∈ declared, ∃ s, e.2.untag = .string s := by
    cases hshape with
    | mapping hmapping _ huris => exact ⟨_, Value.asEntries?_eq_some.mpr hmapping, huris⟩
  have hentry : ∀ e ∈ Entries.insert position pre (.string uri) declared,
      e = (.string pre, .string uri) ∨ e ∈ declared := fun e he =>
    List.mem_cons.mp (List.insertIdx_subset_cons position _ declared he)
  have hdeclaration : (apply (declaration position pre uri) root).get? "$namespaces" =
      some (v.mapEntries (Entries.insert position pre (.string uri))) := by
    rw [apply, hroot]
    dsimp only
    rw [Entries.get?_amend_self, hroot, Option.map_some]
  have hmapping' : (v.mapEntries (Entries.insert position pre (.string uri))).asEntries? =
      some (Entries.insert position pre (.string uri) declared) := by
    rw [Value.asEntries?_mapEntries, hmapping, Option.map_some]
  refine exists_readNamespaces_of_keys hroot hmapping hdeclaration hmapping' ?_ (fun e he => ?_)
    (fun e he => ?_) hns
  · exact List.map_subset _ (List.subset_insertIdx _ _ _)
  · rcases hentry e he with rfl | hold
    · exact .inr ⟨pre, rfl⟩
    · exact .inl (List.mem_map_of_mem hold)
  · rcases hentry e he with rfl | hold
    · exact ⟨uri, rfl⟩
    · exact huris e hold

/-- After an addition the namespaces can still be read, and no prefix is lost. -/
theorem exists_readNamespaces_apply {edit : Addition} (h : edit.Proper prefixes) {root : Entries}
    {ns : List (String × String)} (hns : Document.readNamespaces root = .ok ns) :
    ∃ ns', Document.readNamespaces (edit.apply root) = .ok ns' ∧
      ns.map Prod.fst ⊆ ns'.map Prod.fst := by
  have hsame : (edit.apply root).get? "$namespaces" = root.get? "$namespaces" →
      ∃ ns', Document.readNamespaces (edit.apply root) = .ok ns' ∧
        ns.map Prod.fst ⊆ ns'.map Prod.fst := by
    intro hget
    exact ⟨ns, by rw [readNamespaces_congr hget, hns], List.Subset.refl _⟩
  cases edit with
  | declaration position pre uri =>
    cases hroot : root.get? "$namespaces" with
    | none => exact exists_readNamespaces_first hroot hns
    | some v => exact exists_readNamespaces_further hroot hns
  | atRoot position key v =>
    exact hsame (Entries.get?_insert_of_ne (h.1.ne (by decide)) position root)
  | inProcess a position key v =>
    refine hsame (get?_amendAt (fun es => ?_) (by decide) (by decide) a root)
    exact Entries.get?_insert_of_ne (h.1.ne (by decide)) position es

end Addition

/-! ### Other declarations -/

/-- The prefixes of a document are declared in another order, or for other URIs. -/
inductive Redeclared : Value → Value → Prop
  /-- The keys in the mapping of namespaces are those that were there. -/
  | intro {v declaration : Value} {root declared declared' : Entries}
      (mapping : v.asEntries? = some root)
      (namespaces : root.get? "$namespaces" = some declaration)
      (entries : declaration.asEntries? = some declared)
      (keys : (declared.map Prod.fst).Perm (declared'.map Prod.fst))
      (uris : ∀ e ∈ declared', ∃ uri, e.2.untag = .string uri) :
      Redeclared v (v.mapEntries
        (Entries.amend "$namespaces" (Value.mapEntries fun _ => declared')))

/-- Where the namespaces have the same keys, and more perhaps, and all else is the same, the
same processes are declared with the same or more metadata. -/
theorem follows_of_keys {v v' declaration declaration' : Value} {declared declared' : Entries}
    (hroot : v.asEntries? = some root) (hroot' : v'.asEntries? = some root')
    (hother : ∀ name, name ≠ "$namespaces" → root.get? name = root'.get? name)
    (hns : root.get? "$namespaces" = some declaration)
    (hdeclared : declaration.asEntries? = some declared)
    (hns' : root'.get? "$namespaces" = some declaration')
    (hdeclared' : declaration'.asEntries? = some declared')
    (hkeys : (declared.map Prod.fst).Perm (declared'.map Prod.fst))
    (huris : ∀ e ∈ declared', ∃ uri, e.2.untag = .string uri) :
    Follows (fun d d' : Document => List.Forall₂ CwlProcess.Enriched d.processes d'.processes)
      (Document.ofValue v) (Document.ofValue v') := by
  refine follows_document hroot hroot' fun ns hread => ?_
  obtain ⟨ns', hread', hsubset⟩ := exists_readNamespaces_of_keys hns hdeclared hns' hdeclared'
    hkeys.subset (fun e he => .inl (hkeys.symm.subset (List.mem_map_of_mem he))) huris hread
  refine ⟨ns', hread', hsubset, .of_get? (givesAll_of_get? fun f key hkey => .inl ?_)
    fun name _ hname => hother name hname⟩
  refine (hother key ?_).symm
  rintro rfl
  exact notMem_reservedKeys hkey (by decide)

/-- A document whose prefixes are declared anew declares the same processes with the same
fields of metadata. -/
theorem Redeclared.exists_ofValue_eq_ok {v v' : Value} (h : Redeclared v v') {d : Document}
    (hd : Document.ofValue v = .ok d) : ∃ d', Document.ofValue v' = .ok d' ∧
      List.Forall₂ CwlProcess.Enriched d.processes d'.processes ∧
      List.Forall₂ CwlProcess.Enriched d'.processes d.processes := by
  cases h with
  | @intro declaration root declared declared' hroot hns hdeclared hkeys huris =>
    set edit : Entries → Entries :=
      Entries.amend "$namespaces" (Value.mapEntries fun _ => declared') with hedit
    have hroot' : (v.mapEntries edit).asEntries? = some (edit root) := by
      rw [Value.asEntries?_mapEntries, hroot, Option.map_some]
    have hother : ∀ name, name ≠ "$namespaces" → root.get? name = (edit root).get? name :=
      fun name hname => (Entries.get?_amend_of_ne hname root).symm
    have hns' : (edit root).get? "$namespaces" =
        some (declaration.mapEntries fun _ => declared') := by
      rw [hedit, Entries.get?_amend_self, hns, Option.map_some]
    have hdeclared' : (declaration.mapEntries fun _ => declared').asEntries? = some declared' := by
      rw [Value.asEntries?_mapEntries, hdeclared, Option.map_some]
    obtain ⟨d', hd', henriched⟩ := follows_of_keys hroot hroot' hother hns hdeclared hns'
      hdeclared' hkeys huris d hd
    -- the first document is got back by declaring its prefixes as they were
    obtain ⟨r, hr, hread, -⟩ := exists_of_ofValue_eq_ok hd
    obtain rfl : root = r := Option.some.inj (hroot.symm.trans hr)
    have hshape := exists_readNamespaces_iff.mp ⟨_, hread⟩
    rw [hns] at hshape
    have huris' : ∀ e ∈ declared, ∃ uri, e.2.untag = .string uri := by
      cases hshape with
      | mapping hmapping _ hold =>
        rw [← Value.asEntries?_eq_some, hdeclared] at hmapping
        obtain rfl := Option.some.inj hmapping
        exact hold
    obtain ⟨d'', hd'', hback⟩ := follows_of_keys hroot' hroot
      (fun name hname => (hother name hname).symm) hns' hdeclared' hns hdeclared hkeys.symm huris'
      d' hd'
    obtain rfl : d = d'' := Except.ok.inj (hd.symm.trans hd'')
    exact ⟨d', hd', henriched, hback⟩

/-! ### What is found -/

/-- **Metadata never hurts.**  How the declared prefixes are ordered and which URIs they stand
for makes no difference to any rule.  With another prefix, or another entry under a key for
metadata that is not null, at the root or in the mapping that declares any of the processes,
the document is still read, what is said to be missing of the metadata is some of what was
said before, in the same order, and every other rule raises what it raised. -/
theorem metadata_never_hurts :
    (∀ (v v' : Value) (d : Document), Redeclared v v' → Document.ofValue v = .ok d →
      ∃ d', Document.ofValue v' = .ok d' ∧
        ∀ (text text' : String) (entry : Option String) (rule : Rule),
          rule.issues ⟨text', d'⟩ entry = rule.issues ⟨text, d⟩ entry) ∧
    ∀ (v : Value) (d : Document) (edit : Addition), Document.ofValue v = .ok d →
      edit.Proper (d.namespaces.map Prod.fst) →
      ∃ d', Document.ofValue (v.mapEntries edit.apply) = .ok d' ∧
        ∀ (text text' : String) (entry : Option String),
          (Rule.metadata.issues ⟨text', d'⟩ entry).Sublist
            (Rule.metadata.issues ⟨text, d⟩ entry) ∧
          ∀ rule : Rule, rule ≠ .metadata →
            rule.issues ⟨text', d'⟩ entry = rule.issues ⟨text, d⟩ entry := by
  constructor
  · intro v v' d hv hd
    obtain ⟨d', hd', henriched, hback⟩ := hv.exists_ofValue_eq_ok hd
    refine ⟨d', hd', fun text text' entry rule => ?_⟩
    have hthere : List.Forall₂ CwlProcess.Enriched (Package.processes ⟨text, d⟩)
        (Package.processes ⟨text', d'⟩) := henriched
    have hback : List.Forall₂ CwlProcess.Enriched (Package.processes ⟨text', d'⟩)
        (Package.processes ⟨text, d⟩) := hback
    by_cases hrule : rule = .metadata
    · subst hrule
      exact (Package.metadata_issues_sublist hthere entry).antisymm
        (Package.metadata_issues_sublist hback entry)
    · exact Package.issues_eq_of_enriched hthere hrule entry
  · intro v d edit hd hedit
    obtain ⟨root, hroot, hread, -⟩ := exists_of_ofValue_eq_ok hd
    have hroot' : (v.mapEntries edit.apply).asEntries? = some (edit.apply root) := by
      rw [Value.asEntries?_mapEntries, hroot, Option.map_some]
    have hfollows := follows_document hroot hroot' fun ns hns => by
      obtain rfl : d.namespaces = ns := Except.ok.inj (hread.symm.trans hns)
      obtain ⟨ns', hns', hsubset⟩ := edit.exists_readNamespaces_apply hedit hns
      exact ⟨ns', hns', hsubset, edit.rootEnriched_apply hedit root⟩
    obtain ⟨d', hd', henriched⟩ := hfollows d hd
    refine ⟨d', hd', fun text text' entry => ?_⟩
    have hthere : List.Forall₂ CwlProcess.Enriched (Package.processes ⟨text, d⟩)
        (Package.processes ⟨text', d'⟩) := henriched
    exact ⟨Package.metadata_issues_sublist hthere entry,
      fun rule hrule => Package.issues_eq_of_enriched hthere hrule entry⟩

/-- A licence for the workflow of a packed document, under a qualified name. -/
def licence : Addition := .inProcess [0] 1 "dct:license" (.string "MIT")

/-- The prefixes of `release` in the other order, one of them for another URI. -/
def otherNamespaces : Entries :=
  [ (.string "dct", .string "http://purl.org/dc/terms/")
  , (.string "s", .string "http://schema.org/") ]

theorem metadata_never_hurts_release : ∃ v' d d' d'',
    Document.ofValue (.mapping release) = .ok d ∧
    Redeclared (.mapping release) v' ∧ Document.ofValue v' = .ok d' ∧
    Rule.metadata.issues ⟨"", d'⟩ none = Rule.metadata.issues ⟨"", d⟩ none ∧
    Document.ofValue (.mapping (licence.apply release)) = .ok d'' ∧
    (Rule.metadata.issues ⟨"", d''⟩ none).Sublist (Rule.metadata.issues ⟨"", d⟩ none) ∧
    (Rule.metadata.issues ⟨"", d⟩ none).length = 7 ∧
    (Rule.metadata.issues ⟨"", d''⟩ none).length = 6 := by
  have hread : (Document.ofValue (.mapping release)).toOption.map (fun d =>
      (d.namespaces.map Prod.fst, (Rule.metadata.issues ⟨"", d⟩ none).length)) =
      some (["s", "dct"], 7) := by decide +kernel
  have hmore : (Document.ofValue (.mapping (licence.apply release))).toOption.map (fun d =>
      (Rule.metadata.issues ⟨"", d⟩ none).length) = some 6 := by decide +kernel
  obtain ⟨d, hd, hprefixes⟩ := Option.map_eq_some_iff.mp hread
  rw [Reading.toOption_eq_some] at hd
  rw [Prod.mk.injEq] at hprefixes
  have hproper : licence.Proper (d.namespaces.map Prod.fst) := by
    rw [hprefixes.1]
    exact ⟨⟨.license, by decide +kernel⟩, by simp [Value.untag]⟩
  have hredeclared : Redeclared (.mapping release) ((Value.mapping release).mapEntries
      (Entries.amend "$namespaces" (Value.mapEntries fun _ => otherNamespaces))) := by
    refine .intro rfl rfl rfl (List.Perm.swap _ _ _) fun e he => ?_
    rcases List.mem_cons.mp he with rfl | he
    · exact ⟨_, rfl⟩
    · rw [List.mem_singleton.mp he]
      exact ⟨_, rfl⟩
  obtain ⟨hdeclarations, hadditions⟩ := metadata_never_hurts
  obtain ⟨d', hd', hissues⟩ := hdeclarations _ _ d hredeclared hd
  obtain ⟨d'', hd'', hsublist⟩ := hadditions _ d licence hd hproper
  obtain ⟨e, he, hlength⟩ := Option.map_eq_some_iff.mp hmore
  obtain rfl : d'' = e := Except.ok.inj (hd''.symm.trans (Reading.toOption_eq_some.mp he))
  exact ⟨_, d, d', d'', hd, hredeclared, hd', hissues "" "" none .metadata, hd'',
    (hsublist "" "" none).1, hprefixes.2, hlength⟩

end CwlCompliance
