import CwlCompliance.Proofs.Document.Origin

/-!
# Where metadata is found

A field of the metadata of a workflow may be given under several keys: its name, that name
under each declared prefix, and for a version the same under a second name.  The value that
counts is the first, in this order, that is not null; what the mapping of the workflow gives
comes before all that the root gives, and only a workflow at the top of a packed document
looks there.

## Main definitions

* `ProvenanceField.keys` — the keys of a field, in the order in which they are tried.
* `lookups` — where a field is looked for, in order.
* `Gives`, `FirstGiven` — what a mapping gives under a key, and the first of what several do.
* `declaredPrefixes` — the prefixes that a document declares.

## Main results

* `Provenance.mem_resolve` — the metadata of a workflow is what is found first.
* `map_fst_readNamespaces` — the prefixes are tried in the order of their declaration.
* `provenance_precedence` — **the metadata of every process of a document.**
-/

namespace CwlCompliance

open Yaml

variable {prefixes : List String} {es : Entries} {seen : Option Entries}

/-! ### The order of lookup -/

/-- A name on its own, then under each prefix. -/
def qualified (prefixes : List String) (name : String) : List String :=
  name :: prefixes.map fun pre => pre ++ ":" ++ name

/-- The keys under which a field may be given, in the order in which they are tried. -/
def ProvenanceField.keys (prefixes : List String) : ProvenanceField → List String
  | .version => qualified prefixes "version" ++ qualified prefixes "softwareVersion"
  | f => qualified prefixes f.name

/-- Where a field is looked for: under each key in a mapping, and then, if the root is seen,
under the same keys at the root. -/
def lookups (prefixes : List String) (f : ProvenanceField) (es : Entries) (seen : Option Entries) :
    List (Entries × String) :=
  (f.keys prefixes).map (fun key => (es, key)) ++
    seen.toList.flatMap fun root => (f.keys prefixes).map fun key => (root, key)

/-- A mapping has a value under a key, and it is not null, tags aside. -/
def Gives (es : Entries) (key : String) (v : Value) : Prop :=
  es.get? key = some v ∧ v.untag ≠ .null

/-- The first value that is given at one of several places. -/
def FirstGiven (l : List (Entries × String)) (v : Value) : Prop :=
  ∃ before x after, l = before ++ x :: after ∧ Gives x.1 x.2 v ∧
    ∀ y ∈ before, ∀ u, ¬Gives y.1 y.2 u

theorem candidates_eq_keys (f : ProvenanceField) :
    Provenance.candidates prefixes f = f.keys prefixes := by
  cases f <;> simp [Provenance.candidates, ProvenanceField.spellings, ProvenanceField.keys,
    qualified]

theorem Yaml.Value.isNull_eq_false_iff {v : Value} : v.isNull = false ↔ v.untag ≠ .null := by
  rw [Value.isNull]
  cases v.untag <;> simp

theorem filter_isNull_eq_some_iff {key : String} {v : Value} :
    ((es.get? key).filter fun u => !u.isNull) = some v ↔ Gives es key v := by
  rw [Option.filter_eq_some_iff, Bool.not_eq_true', Value.isNull_eq_false_iff, Gives]

theorem filter_isNull_eq_none_iff {key : String} :
    ((es.get? key).filter fun u => !u.isNull) = none ↔ ∀ u, ¬Gives es key u := by
  rw [Option.eq_none_iff_forall_ne_some]
  exact forall_congr' fun u => not_congr filter_isNull_eq_some_iff

/-- A search through places for one that gives a value finds the first. -/
theorem findSome?_eq_some_iff_firstGiven {l : List (Entries × String)} {v : Value} :
    (l.findSome? fun x => (x.1.get? x.2).filter fun u => !u.isNull) = some v ↔
      FirstGiven l v := by
  simp only [List.findSome?_eq_some_iff, filter_isNull_eq_some_iff, filter_isNull_eq_none_iff,
    FirstGiven]

/-- What is found first is found in the mapping itself, or there is nothing in it and it is
found at the root. -/
theorem FirstGiven.own_or_root {f : ProvenanceField} {w : Value}
    (h : FirstGiven (lookups prefixes f es seen) w) :
    (∃ key ∈ f.keys prefixes, Gives es key w) ∨
      (∀ key ∈ f.keys prefixes, ∀ u, ¬Gives es key u) ∧
        ∃ root, seen = some root ∧ ∃ key ∈ f.keys prefixes, Gives root key w := by
  rw [← findSome?_eq_some_iff_firstGiven, lookups, List.findSome?_append, Option.or_eq_some_iff]
    at h
  rcases h with h | ⟨hnone, h⟩
  · obtain ⟨x, hx, hw⟩ := List.exists_of_findSome?_eq_some h
    obtain ⟨key, hkey, rfl⟩ := List.mem_map.mp hx
    exact .inl ⟨key, hkey, filter_isNull_eq_some_iff.mp hw⟩
  · refine .inr ⟨fun key hkey => ?_, ?_⟩
    · rw [List.findSome?_eq_none_iff] at hnone
      exact filter_isNull_eq_none_iff.mp (hnone (es, key) (List.mem_map_of_mem hkey))
    · obtain ⟨x, hx, hw⟩ := List.exists_of_findSome?_eq_some h
      obtain ⟨root, hroot, hx⟩ := List.mem_flatMap.mp hx
      obtain ⟨key, hkey, rfl⟩ := List.mem_map.mp hx
      exact ⟨root, Option.mem_toList.mp hroot, key, hkey, filter_isNull_eq_some_iff.mp hw⟩

/-! ### The metadata of a workflow -/

/-- What is found in the mapping of a workflow comes before what is found at the root. -/
theorem or_find?_eq_findSome? (f : ProvenanceField) :
    (Provenance.find? prefixes es f).or (seen.bind fun root => Provenance.find? prefixes root f) =
      (lookups prefixes f es seen).findSome? fun x =>
        (x.1.get? x.2).filter fun u => !u.isNull := by
  rw [lookups, List.findSome?_append, List.findSome?_map, Provenance.find?, candidates_eq_keys]
  cases seen with
  | none => rfl
  | some root =>
    rw [Option.toList_some, List.flatMap_singleton, List.findSome?_map, Option.bind_some,
      Provenance.find?, candidates_eq_keys]
    rfl

namespace Provenance

theorem mem_resolve {f : ProvenanceField} {v : Value} :
    (f, v) ∈ resolve prefixes es seen ↔ FirstGiven (lookups prefixes f es seen) v := by
  have hall : f ∈ ProvenanceField.all := by cases f <;> decide
  rw [resolve, List.mem_filterMap, ← findSome?_eq_some_iff_firstGiven, ← or_find?_eq_findSome?]
  constructor
  · rintro ⟨g, -, hg⟩
    obtain ⟨u, hu, hgu⟩ := Option.map_eq_some_iff.mp hg
    cases hgu
    exact hu
  · intro hv
    exact ⟨f, hall, Option.map_eq_some_iff.mpr ⟨v, hv, rfl⟩⟩

/-- The fields that are found, in their order. -/
theorem map_fst_resolve_sublist :
    ((resolve prefixes es seen).map Prod.fst).Sublist ProvenanceField.all := by
  set found : ProvenanceField → Option Value := fun f =>
    (find? prefixes es f).or (seen.bind fun root => find? prefixes root f) with hfound
  have hfields : (resolve prefixes es seen).map Prod.fst =
      ProvenanceField.all.filter fun f => (found f).isSome := by
    rw [resolve, List.map_filterMap, ← List.filterMap_eq_filter]
    refine List.filterMap_congr fun f _ => ?_
    show ((found f).map fun v => (f, v)).map Prod.fst = _
    cases hf : found f <;> simp [Option.guard, hf]
  rw [hfields]
  exact List.filter_sublist

/-- Where no field is listed twice, the value of a field is the one that is listed. -/
theorem get?_eq_some_iff_mem {m : Provenance} (h : (m.map Prod.fst).Nodup) {f : ProvenanceField}
    {v : Value} : m.get? f = some v ↔ (f, v) ∈ m := by
  rw [get?, List.lookup_eq_some_iff]
  constructor
  · rintro ⟨before, after, rfl, -⟩
    simp
  · intro hmem
    obtain ⟨before, after, rfl⟩ := List.append_of_mem hmem
    refine ⟨before, after, rfl, fun x hx => ?_⟩
    rw [List.map_append, List.map_cons, List.nodup_append] at h
    rw [bne_iff_ne]
    exact (h.2.2 x.1 (List.mem_map_of_mem hx) f List.mem_cons_self).symm

end Provenance

/-! ### The declared prefixes -/

/-- The prefixes that a document with this root declares, each once, in order. -/
def declaredPrefixes (root : Entries) : List String :=
  match root.get? "$namespaces" with
  | none => []
  | some v => ((v.asEntries?.getD []).filterMap fun e => e.1.asString?).eraseDups

theorem map_fst_addNamespace (ns : List (String × String)) (pre uri : String) :
    (Document.addNamespace ns pre uri).map Prod.fst = appendNew (ns.map Prod.fst) pre := by
  have hany : ns.any (fun e => e.1 == pre) = (ns.map Prod.fst).contains pre := by
    rw [List.contains_eq_any_beq, List.any_map]
    refine congrArg _ (funext fun e => ?_)
    exact Bool.beq_comm
  rw [Document.addNamespace, appendNew, hany]
  by_cases hmem : (ns.map Prod.fst).contains pre = true
  · rw [if_pos hmem, if_pos hmem, List.map_map]
    refine List.map_congr_left fun e _ => ?_
    by_cases he : e.1 = pre <;> simp [he]
  · rw [if_neg hmem, if_neg hmem, List.map_append, List.map_singleton]

/-- Adding one namespace after the other adds their prefixes. -/
theorem map_fst_foldlM {step : List (String × String) → Value × Value →
      Except Malformed (List (String × String))}
    (hstep : ∀ ns e ns', step ns e = .ok ns' →
      ∃ pre, e.1.asString? = some pre ∧ ns'.map Prod.fst = appendNew (ns.map Prod.fst) pre)
    (entries : Entries) : ∀ {ns ns'}, entries.foldlM step ns = .ok ns' → ns'.map Prod.fst =
      (entries.filterMap fun e => e.1.asString?).foldl appendNew (ns.map Prod.fst) := by
  induction entries with
  | nil =>
    rintro ns _ ⟨⟩
    rfl
  | cons e entries ih =>
    intro ns ns' h
    rw [List.foldlM_cons] at h
    obtain ⟨next, hnext, h⟩ := Reading.bind_eq_ok.mp h
    obtain ⟨pre, hpre, hmap⟩ := hstep ns e next hnext
    have hfirst : (e :: entries).filterMap (fun e => e.1.asString?) =
        pre :: entries.filterMap fun e => e.1.asString? := List.filterMap_cons_some hpre
    rw [ih h, hmap, hfirst, List.foldl_cons]

/-- The prefixes are those declared, in the order of their declaration. -/
theorem map_fst_readNamespaces {root : Entries} {ns : List (String × String)}
    (h : Document.readNamespaces root = .ok ns) : ns.map Prod.fst = declaredPrefixes root := by
  rw [Document.readNamespaces] at h
  rw [declaredPrefixes]
  cases hget : root.get? "$namespaces" with
  | none =>
    rw [hget] at h
    cases h
    rfl
  | some v =>
    rw [hget] at h
    dsimp only at h ⊢
    cases hentries : v.asEntries? with
    | none =>
      rw [hentries] at h
      exact nomatch h
    | some entries =>
      rw [hentries] at h
      rw [Option.getD_some, ← foldl_appendNew_nil]
      refine map_fst_foldlM ?_ entries h
      rintro ns ⟨key, uri⟩ ns' hstep
      dsimp only at hstep ⊢
      cases hkey : key.asString? with
      | none =>
        rw [hkey] at hstep
        exact nomatch hstep
      | some pre =>
        cases huri : uri.asString? with
        | none =>
          rw [hkey, huri] at hstep
          exact nomatch hstep
        | some uri =>
          rw [hkey, huri] at hstep
          cases hstep
          exact ⟨pre, rfl, map_fst_addNamespace ns pre uri⟩

/-! ### The metadata of a document -/

/-- **The metadata of every process of a document.**  A workflow has those fields that are
given under one of their keys, each with the first value that is not null: the keys are
tried in its own mapping, unqualified and then under the declared prefixes in their order,
and for a workflow at the top of a packed document then in the same order at the root.  So
what the mapping of a workflow gives comes before all that the root gives.  No other
process has metadata. -/
theorem provenance_precedence {v : Value} {d : Document} (h : Document.ofValue v = .ok d) :
    ∃ root, v.asEntries? = some root ∧
      d.namespaces.map Prod.fst = declaredPrefixes root ∧
      ∀ a q, processAt d.processes a = some q → ∃ es, entriesAt root a = some es ∧
        (q.processClass ≠ .workflow → q.provenance = []) ∧
        (q.provenance.map Prod.fst).Sublist ProvenanceField.all ∧
        ∀ f, (∀ w, q.provenance.get? f = some w ↔ (f, w) ∈ q.provenance) ∧
          (q.processClass = .workflow → ∀ w, (f, w) ∈ q.provenance ↔
            FirstGiven (lookups (declaredPrefixes root) f es (seenRoot root a)) w) ∧
          ∀ w, (f, w) ∈ q.provenance →
            (∃ key ∈ f.keys (declaredPrefixes root), Gives es key w) ∨
            (∀ key ∈ f.keys (declaredPrefixes root), ∀ u, ¬Gives es key u) ∧
              (root.get? "$graph").isSome ∧ (∃ i, a = [i]) ∧
              ∃ key ∈ f.keys (declaredPrefixes root), Gives root key w := by
  obtain ⟨root, hroot, hnamespaces, -⟩ := exists_of_ofValue_eq_ok h
  have hprefixes : d.namespaces.map Prod.fst = declaredPrefixes root :=
    map_fst_readNamespaces hnamespaces
  refine ⟨root, hroot, hprefixes, fun a q ha => ?_⟩
  obtain ⟨root', es, origin, hroot', hes, hread⟩ := exists_read_processAt h ha
  obtain rfl : root = root' := Option.some.inj (hroot.symm.trans hroot')
  have hmetadata := CwlProcess.provenance_ofEntries hread
  rw [show d.namespaces.map (·.1) = declaredPrefixes root from hprefixes] at hmetadata
  have hsublist : (q.provenance.map Prod.fst).Sublist ProvenanceField.all := by
    rw [hmetadata]
    split
    · exact Provenance.map_fst_resolve_sublist
    · exact List.nil_sublist _
  have hfound : q.processClass = .workflow → ∀ f w, (f, w) ∈ q.provenance ↔
      FirstGiven (lookups (declaredPrefixes root) f es (seenRoot root a)) w := by
    intro hc f w
    rw [hmetadata, if_pos hc]
    exact Provenance.mem_resolve
  have hnone : q.processClass ≠ .workflow → q.provenance = [] := by
    intro hc
    rw [hmetadata, if_neg hc]
  refine ⟨es, hes, hnone, hsublist, fun f => ⟨fun w => ?_, fun hc => hfound hc f, fun w hw => ?_⟩⟩
  · exact Provenance.get?_eq_some_iff_mem (hsublist.nodup (by decide))
  · have hc : q.processClass = .workflow := by
      by_contra hc
      rw [hnone hc] at hw
      exact absurd hw List.not_mem_nil
    obtain hown | ⟨hown, r, hr, hkey⟩ := ((hfound hc f w).mp hw).own_or_root
    · exact .inl hown
    · rw [seenRoot] at hr
      split at hr
      · next hseen =>
        obtain rfl := Option.some.inj hr
        exact .inr ⟨hown, hseen.1, List.length_eq_one_iff.mp hseen.2, hkey⟩
      · cases hr

/-- A packed document whose metadata is given in part by its workflow and in part by its
root.  The workflow declares another in place, and gives a null for its version before a
version under another key. -/
def release : Entries :=
  [ (.string "$namespaces", .mapping
      [ (.string "s", .string "https://schema.org/")
      , (.string "dct", .string "http://purl.org/dc/terms/") ])
  , (.string "version", .string "1")
  , (.string "s:author", .string "team")
  , (.string "$graph", .sequence
      [ .mapping
          [ (.string "class", .string "Workflow")
          , (.string "version", .tagged "t" .null)
          , (.string "s:softwareVersion", .string "2")
          , (.string "steps", .sequence [.mapping
              [(.string "run", .mapping [(.string "class", .string "Workflow")])]]) ] ]) ]

theorem provenance_precedence_release : ∃ d main inner,
    Document.ofValue (.mapping release) = .ok d ∧
    processAt d.processes [0] = some main ∧ processAt d.processes [0, 0] = some inner ∧
    (.version, .string "2") ∈ main.provenance ∧ (.author, .string "team") ∈ main.provenance ∧
    ∀ w, (ProvenanceField.author, w) ∉ inner.provenance := by
  have hworkflows : (Document.ofValue (.mapping release)).toOption.map (fun d =>
      (processAt d.processes [0]).any CwlProcess.isWorkflow &&
        (processAt d.processes [0, 0]).any CwlProcess.isWorkflow) = some true := by decide +kernel
  obtain ⟨d, hd, hclasses⟩ := Option.map_eq_some_iff.mp hworkflows
  rw [Reading.toOption_eq_some] at hd
  rw [Bool.and_eq_true, Option.any_eq_true, Option.any_eq_true] at hclasses
  obtain ⟨⟨main, hmain, hmainClass⟩, inner, hinner, hinnerClass⟩ := hclasses
  obtain ⟨root, hroot, -, hmetadata⟩ := provenance_precedence hd
  obtain rfl : release = root := Option.some.inj hroot
  obtain ⟨es, hes, -, -, hfields⟩ := hmetadata [0] main hmain
  obtain ⟨es', hes', -, -, hfields'⟩ := hmetadata [0, 0] inner hinner
  have hfound := fun f => (hfields f).2.1 (of_decide_eq_true hmainClass)
  have hfound' := fun f => (hfields' f).2.1 (of_decide_eq_true hinnerClass)
  cases hes
  cases hes'
  refine ⟨d, main, inner, hd, hmain, hinner, ?_, ?_, fun w hw => ?_⟩
  · rw [hfound, ← findSome?_eq_some_iff_firstGiven]
    rfl
  · rw [hfound, ← findSome?_eq_some_iff_firstGiven]
    rfl
  · rw [hfound', ← findSome?_eq_some_iff_firstGiven] at hw
    exact nomatch hw

end CwlCompliance
