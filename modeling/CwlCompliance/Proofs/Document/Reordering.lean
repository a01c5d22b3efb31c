import CwlCompliance.Proofs.Document.Edits
import CwlCompliance.Proofs.Document.Rewriting
import CwlCompliance.Proofs.Document.Surroundings
import CwlCompliance.Proofs.Process.Reordering

/-!
# Packed documents in another order

The items of the graph of a packed document may be written in another order.  Messages
number them and metadata is looked for at the root, where the graph stands; but neither its
number nor the graph bears on what an item declares.  So the document declares the same
processes, in the new order.

## Main definitions

* `Repacked σ v v'` — a packed document with the items of its graph in another order.

## Main results

* `exists_mapM_of_reordered` — a numbered list read in another order.
* `agree_readItem` — an item declares the same under any number and any graph.
* `exists_readProcesses_of_reordered` — items in another order.
* `Repacked.exists_ofValue_eq_ok` — **the same processes are declared in the new order.**
-/

namespace CwlCompliance

open Yaml

variable {σ : Equiv.Perm ℕ}

/-! ### Numbered lists -/

section Numbered

variable {ε ε' α β : Type} {l l' : List α} {n : ℕ} {f : α × ℕ → Except ε β}
  {g : α × ℕ → Except ε' β} {bs : List β}

/-- What is read from a numbered list, position by position. -/
theorem getElem?_of_mapM_zipIdx (h : (l.zipIdx n).mapM f = .ok bs) (i : ℕ) :
    bs[i]? = l[i]?.bind fun a => (f (a, n + i)).toOption := by
  rw [Reading.mapM_eq_ok] at h
  cases hi : bs[i]? with
  | some b =>
    obtain ⟨⟨a, k⟩, ha, hb⟩ := exists_getElem?_of_forall₂ h hi
    rw [List.getElem?_zipIdx, Option.map_eq_some_iff] at ha
    obtain ⟨_, ha, ⟨⟩⟩ := ha
    rw [ha, Option.bind_some, hb]
    rfl
  | none =>
    have hlength : l.length ≤ i := by
      rw [← List.length_zipIdx, h.length_eq]
      exact List.getElem?_eq_none_iff.mp hi
    rw [List.getElem?_eq_none hlength, Option.bind_none]

/-- A numbered list in another order is read as the same in this order, if the numbers make
no difference. -/
theorem exists_mapM_of_reordered (h : Reordered σ l l')
    (hread : ∀ a m k, Agree (f (a, m)) (g (a, k))) (hbs : (l.zipIdx n).mapM f = .ok bs) :
    ∃ bs', (l'.zipIdx n).mapM g = .ok bs' ∧ Reordered σ bs bs' := by
  have hall : ∀ a ∈ l, ∃ b, ∀ k, g (a, k) = .ok b := by
    refine (forall_mem_zipIdx_fst (n := n)).mp fun x hx => ?_
    obtain ⟨b, hb⟩ := Reading.exists_mapM_eq_ok.mp ⟨bs, hbs⟩ x hx
    exact ⟨b, fun k => (hread x.1 x.2 k b).mp hb⟩
  have hall' : ∀ x ∈ l'.zipIdx n, ∃ b, g x = .ok b := by
    intro x hx
    obtain ⟨b, hb⟩ := hall x.1 (h.mem_iff.mp (List.fst_mem_of_mem_zipIdx hx))
    exact ⟨b, hb x.2⟩
  obtain ⟨bs', hbs'⟩ := Reading.exists_mapM_eq_ok.mpr hall'
  refine ⟨bs', hbs', fun i => ?_⟩
  rw [getElem?_of_mapM_zipIdx hbs', getElem?_of_mapM_zipIdx hbs, h i]
  exact congrArg _ (funext fun a => (hread a _ _).toOption_eq.symm)

end Numbered

/-! ### Items of a graph -/

section Items

variable {prefixes : List String} {root root' : Entries} {items items' : List Value}

/-- An item declares the same process whatever its number is and whatever else the graph holds. -/
theorem agree_readItem (h : ∀ name, name ≠ "$graph" → root.get? name = root'.get? name)
    (item : Value) (m n : ℕ) :
    Agree (Document.readItem ⟨prefixes, some root⟩ m item)
      (Document.readItem ⟨prefixes, some root'⟩ n item) := by
  have hgraph : "$graph" ∈ rewrittenKeys := by decide
  have hfind : ∀ field,
      Provenance.find? prefixes root field = Provenance.find? prefixes root' field :=
    find?_congr fun name hname => h name (ne_of_mem_of_not_mem hgraph hname).symm
  rw [Document.readItem, Document.readItem]
  cases item.asEntries? with
  | none => exact agree_error _ _
  | some es =>
    have hresolve : ∀ es, Provenance.resolve prefixes es (some root) =
        Provenance.resolve prefixes es (some root') := by
      intro es
      simp only [Provenance.resolve, Option.bind_some, hfind]
    exact @agree_surroundings ⟨prefixes, some root⟩ ⟨prefixes, some root'⟩ rfl hresolve es _ _

theorem readProcesses_of_items (h : (root.get? "$graph").bind Value.asItems? = some items) :
    Document.readProcesses prefixes root =
      (items.zipIdx 1).mapM fun x => Document.readItem ⟨prefixes, some root⟩ x.2 x.1 := by
  obtain ⟨graph, hgraph, hitems⟩ := Option.bind_eq_some_iff.mp h
  rw [Document.readProcesses, hgraph]
  dsimp only
  rw [hitems]

/-- Two roots that differ in the order of the items alone declare the same processes, in the
order of the items. -/
theorem exists_readProcesses_of_reordered
    (h : ∀ name, name ≠ "$graph" → root.get? name = root'.get? name)
    (hitems : (root.get? "$graph").bind Value.asItems? = some items)
    (hitems' : (root'.get? "$graph").bind Value.asItems? = some items')
    (hmoved : Reordered σ items items') {ps : List CwlProcess}
    (hps : Document.readProcesses prefixes root = .ok ps) :
    ∃ ps', Document.readProcesses prefixes root' = .ok ps' ∧ Reordered σ ps ps' := by
  rw [readProcesses_of_items hitems] at hps
  rw [readProcesses_of_items hitems']
  exact exists_mapM_of_reordered hmoved (fun item m n => agree_readItem h item m n) hps

end Items

/-! ### Documents -/

/-- `v'` is the packed document `v` with the items of its graph in another order. -/
inductive Repacked (σ : Equiv.Perm ℕ) (v : Value) : Value → Prop
  /-- The graph at the root has other items, which are its items moved. -/
  | intro {root : Entries} {graph : Value} {items items' : List Value}
      (mapping : v.asEntries? = some root) (packed : root.get? "$graph" = some graph)
      (list : graph.asItems? = some items) (moved : Reordered σ items items') :
      Repacked σ v (v.mapEntries (Entries.amend "$graph" (Value.mapItems fun _ => items')))

/-- **The same processes are declared in the new order.** -/
theorem Repacked.exists_ofValue_eq_ok {v v' : Value} (h : Repacked σ v v') {d : Document}
    (hd : Document.ofValue v = .ok d) :
    ∃ d', Document.ofValue v' = .ok d' ∧ Reordered σ d.processes d'.processes := by
  cases h with
  | @intro root graph items items' hroot hgraph hitems hmoved =>
    obtain ⟨r, hr, hns, hps⟩ := exists_of_ofValue_eq_ok hd
    obtain rfl : root = r := Option.some.inj (hroot.symm.trans hr)
    set edit : Entries → Entries :=
      Entries.amend "$graph" (Value.mapItems fun _ => items') with hedit
    have hroot' : (v.mapEntries edit).asEntries? = some (edit root) := by
      rw [Value.asEntries?_mapEntries, hroot, Option.map_some]
    have hother : ∀ name, name ≠ "$graph" → root.get? name = (edit root).get? name :=
      fun name hname => (Entries.get?_amend_of_ne hname root).symm
    have hlist : (root.get? "$graph").bind Value.asItems? = some items := by
      rw [hgraph, Option.bind_some, hitems]
    have hlist' : ((edit root).get? "$graph").bind Value.asItems? = some items' := by
      rw [hedit, Entries.get?_amend_self, hgraph, Option.map_some, Option.bind_some,
        Value.asItems?_mapItems, hitems, Option.map_some]
    have hns' : Document.readNamespaces (edit root) = .ok d.namespaces := by
      rw [← readNamespaces_congr (hother "$namespaces" (by decide)), hns]
    obtain ⟨ps', hps', hreordered⟩ :=
      exists_readProcesses_of_reordered hother hlist hlist' hmoved hps
    obtain ⟨d', hd', rfl⟩ := exists_document_of_read hroot' hns' hps'
    exact ⟨d', hd', hreordered⟩

end CwlCompliance
