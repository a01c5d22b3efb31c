import CwlCompliance.Proofs.Lists
import CwlCompliance.Report.Basic

/-!
# Issues by rule

A report lists its issues by rule: it starts a place for every rule that was recorded,
and then puts one issue after the other in its place, or in a new one at the end.  What
comes of it can be said without the order of work.

## Main definitions

* `listing keys f` — the listing with some rules, and under each what `f` gives.
* `Report.listed` — the rules of the listing of a report.

## Main results

* `Listing.add_listing` — what one addition makes of a listing.
* `Report.grouped_eq` — **a report lists under each rule the issues of that rule.**
* `Report.map_fst_grouped`, `Report.perm_grouped` — the rules that are listed, and that
  no issue is lost.
-/

namespace CwlCompliance

variable {keys : List Rule} {f : Rule → List Issue} {rule : Rule} {issues : List Issue}

/-- The listing with some rules, and under each what `f` gives. -/
def listing (keys : List Rule) (f : Rule → List Issue) : Listing := keys.map fun k => (k, f k)

theorem listing_cons (k : Rule) (keys : List Rule) (f : Rule → List Issue) :
    listing (k :: keys) f = (k, f k) :: listing keys f := rfl

theorem listing_congr {g : Rule → List Issue} (h : ∀ k ∈ keys, f k = g k) :
    listing keys f = listing keys g :=
  List.map_congr_left fun k hk => by rw [h k hk]

/-! ### Adding to a listing -/

/-- **A step**: the issues are added where their rule stands, or in a new place at the end. -/
theorem Listing.add_listing (hkeys : keys.Nodup) (hf : rule ∉ keys → f rule = []) :
    Listing.add rule issues (listing keys f) =
      listing (appendNew keys rule) fun k => if k = rule then f k ++ issues else f k := by
  induction keys with
  | nil =>
    have hnone : f rule = [] := hf List.not_mem_nil
    simp [listing, Listing.add, hnone]
  | cons k keys ih =>
    rw [List.nodup_cons] at hkeys
    rw [listing_cons, Listing.add]
    by_cases hk : k = rule
    · subst hk
      -- the rule does not stand a second time further on
      have hrest : listing keys f =
          listing keys fun k' => if k' = k then f k' ++ issues else f k' := by
        refine listing_congr fun k' hk' => ?_
        have hne : k' ≠ k := fun hkk => hkeys.1 (hkk ▸ hk')
        rw [if_neg hne]
      rw [if_pos rfl, appendNew_cons_self, listing_cons, if_pos rfl, ← hrest]
    · have hrest := ih hkeys.2 fun hmem => hf fun hcons => by
        rcases List.mem_cons.mp hcons with h | h
        · exact hk h.symm
        · exact hmem h
      rw [if_neg hk, hrest, appendNew_cons_of_ne hk, listing_cons, if_neg hk]

/-- Starting places for rules leaves alone what the listing holds. -/
theorem foldl_add_rules (hkeys : keys.Nodup) (hf : ∀ k ∉ keys, f k = []) (rules : List Rule) :
    rules.foldl (fun l rule => Listing.add rule [] l) (listing keys f) =
      listing (rules.foldl appendNew keys) f := by
  induction rules generalizing keys with
  | nil => rfl
  | cons rule rules ih =>
    have hsame : (fun k => if k = rule then f k ++ [] else f k) = f := by
      funext k
      rw [List.append_nil, ite_self]
    rw [List.foldl_cons, Listing.add_listing hkeys (hf rule), hsame, List.foldl_cons]
    refine ih (nodup_appendNew hkeys) fun k hk => hf k fun hmem => hk ?_
    exact mem_appendNew.mpr (Or.inl hmem)

/-- Adding issues one after the other puts each under its rule. -/
theorem foldl_add_issues (hkeys : keys.Nodup) (hf : ∀ k ∉ keys, f k = []) (issues : List Issue) :
    issues.foldl (fun l i => Listing.add i.rule [i] l) (listing keys f) =
      listing ((issues.map Issue.rule).foldl appendNew keys)
        fun k => f k ++ issues.filter fun i => i.rule = k := by
  induction issues generalizing keys f with
  | nil => exact listing_congr fun k _ => (List.append_nil _).symm
  | cons i issues ih =>
    rw [List.foldl_cons, Listing.add_listing hkeys (hf i.rule), List.map_cons, List.foldl_cons,
      ih (nodup_appendNew hkeys)]
    · refine listing_congr fun k _ => ?_
      by_cases hk : k = i.rule
      · rw [if_pos hk, List.filter_cons_of_pos (by simpa using hk.symm), List.append_assoc,
          List.singleton_append]
      · rw [if_neg hk, List.filter_cons_of_neg (by simpa using Ne.symm hk)]
    · intro k hk
      rw [mem_appendNew, not_or] at hk
      rw [if_neg hk.2, hf k hk.1]

/-! ### The listing of a report -/

namespace Report

variable {r : Report}

/-- The rules of the listing of a report: those recorded, then those that only issues name. -/
def listed (r : Report) : List Rule :=
  (r.issues.map Issue.rule).foldl appendNew (r.rules.foldl appendNew [])

/-- **A report lists under each rule the issues of that rule**, in the order in which they
were recorded. -/
theorem grouped_eq (r : Report) : r.grouped = listing r.listed r.issuesFor := by
  have hstart : ([] : Listing) = listing [] fun _ => [] := rfl
  rw [grouped, hstart, foldl_add_rules List.nodup_nil fun _ _ => rfl,
    foldl_add_issues (nodup_foldl_appendNew List.nodup_nil _) fun _ _ => rfl]
  exact listing_congr fun k _ => List.nil_append _

theorem map_fst_grouped (r : Report) : r.grouped.map Prod.fst = r.listed := by
  rw [grouped_eq, listing, List.map_map]
  exact List.map_id _

theorem nodup_listed (r : Report) : r.listed.Nodup :=
  nodup_foldl_appendNew (nodup_foldl_appendNew List.nodup_nil _) _

theorem listed_eq (h : r.rules.Nodup) : r.listed =
    r.rules ++ ((r.issues.map Issue.rule).filter fun rule => !r.rules.contains rule).eraseDups := by
  rw [listed, foldl_appendNew_nil, eraseDups_eq_self h, foldl_appendNew]

theorem mem_listed_of_mem_issues {i : Issue} (hi : i ∈ r.issues) : i.rule ∈ r.listed := by
  rw [listed, foldl_appendNew, List.mem_append, List.mem_eraseDups, List.mem_filter]
  by_cases hmem : i.rule ∈ r.rules.foldl appendNew []
  · exact Or.inl hmem
  · refine Or.inr ⟨List.mem_map_of_mem hi, ?_⟩
    simpa using hmem

/-- **No issue is lost** in a listing, and none is listed twice. -/
theorem perm_grouped (r : Report) : (r.grouped.flatMap Prod.snd).Perm r.issues := by
  rw [grouped_eq, listing, List.flatMap_map]
  exact perm_flatMap_filter (nodup_listed r) fun i hi => mem_listed_of_mem_issues hi

end Report

end CwlCompliance
