import CwlCompliance.Proofs.Lists
import CwlCompliance.Report.Format
import Mathlib.Data.List.TakeWhile

/-!
# White space and words

White space is told by ranges of numbers, and a word is looked for in a trimmed text without regard
to case.  Here are the characters themselves, and what a text must be like to be blank or to spell a
word.

## Main definitions

* `Text.whiteSpace` — the characters that are white space.
* `Text.Blank` — a text of white space alone.
* `Text.Spells` — a text of one word with white space around it.
* `ReportFormat.NamedBy` — a text that names a format.

## Main results

* `Text.isSpace_iff`, `Text.isBlank_iff` — the ranges are those of the characters.
* `Text.sameIgnoringCase_trim_iff` — which texts are taken for a word.
* `ReportFormat.ofText?_eq_some_iff` — which texts name a format.
-/

namespace CwlCompliance

namespace Text

/-! ### White space -/

/-- The characters that are white space. -/
def whiteSpace : List Char :=
  ['\t', '\n', '\x0b', '\x0c', '\r', ' ', '\u0085', '\u00a0', '\u1680', '\u2000', '\u2001',
    '\u2002', '\u2003', '\u2004', '\u2005', '\u2006', '\u2007', '\u2008', '\u2009', '\u200a',
    '\u2028', '\u2029', '\u202f', '\u205f', '\u3000']

theorem isSpace_iff {c : Char} : isSpace c = true ↔ c ∈ whiteSpace := by
  have hnumber : ∀ d : Char, c = d ↔ c.toNat = d.toNat := fun d => Char.toNat_inj.symm
  simp only [isSpace, whiteSpace, List.mem_cons, List.not_mem_nil, hnumber, Char.reduceToNat,
    Bool.or_eq_true, Bool.and_eq_true, decide_eq_true_eq, or_false]
  omega

theorem isSpace_eq_false_iff {c : Char} : isSpace c = false ↔ c ∉ whiteSpace := by
  rw [← isSpace_iff, Bool.not_eq_true]

/-- A text of white space alone. -/
def Blank (s : String) : Prop := ∀ c ∈ s.toList, c ∈ whiteSpace

theorem isBlank_iff {s : String} : isBlank s = true ↔ Blank s := by
  simp only [isBlank, Blank, List.all_eq_true, isSpace_iff]

instance : DecidablePred Blank := fun _ => decidable_of_iff _ isBlank_iff

theorem isBlank_eq_false_iff {s : String} : isBlank s = false ↔ ¬Blank s := by
  rw [← isBlank_iff, Bool.not_eq_true]

/-- Around what is left of characters after trimming there is white space. -/
theorem exists_trimChars (cs : List Char) : ∃ before after,
    cs = before ++ trimChars cs ++ after ∧ ∀ c ∈ before ++ after, isSpace c = true := by
  generalize hrest : cs.dropWhile isSpace = rest
  have hcs : cs = cs.takeWhile isSpace ++ rest := by rw [← hrest, List.takeWhile_append_dropWhile]
  have hreverse : rest = (rest.reverse.dropWhile isSpace).reverse ++
      (rest.reverse.takeWhile isSpace).reverse := by
    rw [← List.reverse_append, List.takeWhile_append_dropWhile, List.reverse_reverse]
  refine ⟨cs.takeWhile isSpace, (rest.reverse.takeWhile isSpace).reverse, ?_, ?_⟩
  · rw [trimChars, hrest, List.append_assoc, ← hreverse]
    exact hcs
  · intro c hc
    rcases List.mem_append.mp hc with hc | hc
    · exact List.mem_takeWhile_imp hc
    · exact List.mem_takeWhile_imp (List.mem_reverse.mp hc)

/-- Trimming takes off white space around characters that are none. -/
theorem trimChars_append {before letters after : List Char}
    (hbefore : ∀ c ∈ before, isSpace c = true) (hafter : ∀ c ∈ after, isSpace c = true)
    (hletters : ∀ c ∈ letters, isSpace c = false) :
    trimChars (before ++ letters ++ after) = letters := by
  cases letters with
  | nil =>
    have hall : (before ++ [] ++ after).dropWhile isSpace = [] := by
      rw [List.append_nil, List.dropWhile_eq_nil_iff]
      exact fun c hc => (List.mem_append.mp hc).elim (hbefore c) (hafter c)
    rw [trimChars, hall]
    rfl
  | cons first letters =>
    have hfirst : (before ++ (first :: letters ++ after)).dropWhile isSpace =
        first :: letters ++ after := by
      refine (takeWhile_dropWhile_append hbefore ?_).2
      rintro c cs ⟨⟩
      exact hletters first List.mem_cons_self
    have hlast : (after.reverse ++ (first :: letters).reverse).dropWhile isSpace =
        (first :: letters).reverse := by
      refine (takeWhile_dropWhile_append (fun c hc => hafter c (List.mem_reverse.mp hc)) ?_).2
      intro c cs hcs
      exact hletters c (List.mem_reverse.mp (hcs ▸ List.mem_cons_self))
    rw [trimChars, List.append_assoc, hfirst, List.reverse_append, hlast, List.reverse_reverse]

/-! ### Words -/

/-- A text of one word with white space around it.  The letters of the word may be capital. -/
def Spells (word s : String) : Prop := ∃ before letters after,
  s.toList = before ++ letters ++ after ∧ (∀ c ∈ before ++ after, c ∈ whiteSpace) ∧
    List.Forall₂ (fun c l => c = l ∨ c = l.toUpper) letters word.toList

theorem toNat_toLower (c : Char) :
    c.toLower.toNat = if 65 ≤ c.toNat ∧ c.toNat ≤ 90 then c.toNat + 32 else c.toNat := by
  by_cases h : c.val ≥ 'A'.val ∧ c.val ≤ 'Z'.val
  · have hlower : c.toLower = ⟨c.val + ('a'.val - 'A'.val), _⟩ := dif_pos h
    have hrange : 65 ≤ c.toNat ∧ c.toNat ≤ 90 := h
    have hstep : ('a'.val - 'A'.val).toNat = 32 := rfl
    rw [if_pos hrange, hlower, ← Char.toNat_val, UInt32.toNat_add, Char.toNat_val, hstep]
    omega
  · have hlower : c.toLower = c := dif_neg h
    rw [hlower]
    exact (if_neg h).symm

theorem toNat_toUpper (c : Char) :
    c.toUpper.toNat = if 97 ≤ c.toNat ∧ c.toNat ≤ 122 then c.toNat - 32 else c.toNat := by
  by_cases h : 'a'.val ≤ c.val ∧ c.val ≤ 'z'.val
  · have hupper : c.toUpper = ⟨c.val + ('A'.val - 'a'.val), _⟩ := dif_pos h
    have hrange : 97 ≤ c.toNat ∧ c.toNat ≤ 122 := h
    have hstep : ('A'.val - 'a'.val).toNat = 2 ^ 32 - 32 := rfl
    rw [if_pos hrange, hupper, ← Char.toNat_val, UInt32.toNat_add, Char.toNat_val, hstep]
    omega
  · have hupper : c.toUpper = c := dif_neg h
    rw [hupper]
    exact (if_neg h).symm

/-- Lowering a letter gives a small one if it is this letter, small or capital. -/
theorem toLower_eq_iff {c l : Char} (hl : 97 ≤ l.toNat ∧ l.toNat ≤ 122) :
    c.toLower = l ↔ c = l ∨ c = l.toUpper := by
  rw [← Char.toNat_inj, ← Char.toNat_inj, ← Char.toNat_inj, toNat_toLower, toNat_toUpper]
  split_ifs <;> omega

theorem map_toLower_eq_iff {cs word : List Char}
    (hword : ∀ l ∈ word, 97 ≤ l.toNat ∧ l.toNat ≤ 122) :
    cs.map Char.toLower = word ↔ List.Forall₂ (fun c l => c = l ∨ c = l.toUpper) cs word := by
  induction word generalizing cs with
  | nil => rw [List.map_eq_nil_iff, List.forall₂_nil_right_iff]
  | cons l word ih =>
    cases cs with
    | nil => exact iff_of_false (fun h => nomatch h) (fun h => nomatch h)
    | cons c cs =>
      rw [List.map_cons, List.cons.injEq, List.forall₂_cons,
        toLower_eq_iff (hword l List.mem_cons_self),
        ih fun l' hl' => hword l' (List.mem_cons_of_mem _ hl')]

/-- **The texts that are taken for a word** of small letters are those that spell it. -/
theorem sameIgnoringCase_trim_iff {word s : String} (h : word.toList.all Char.isLower = true) :
    sameIgnoringCase word (trim s) = true ↔ Spells word s := by
  have hword : ∀ l ∈ word.toList, 97 ≤ l.toNat ∧ l.toNat ≤ 122 := by
    intro l hl
    have hlower : (decide (l.val ≥ 'a'.val) && decide (l.val ≤ 'z'.val)) = true :=
      List.all_eq_true.mp h l hl
    rw [Bool.and_eq_true, decide_eq_true_eq, decide_eq_true_eq] at hlower
    exact hlower
  have hsmall : word.toList.map Char.toLower = word.toList :=
    (map_toLower_eq_iff hword).mpr (List.forall₂_same.mpr fun l _ => .inl rfl)
  have hsame : sameIgnoringCase word (trim s) = true ↔
      List.Forall₂ (fun c l => c = l ∨ c = l.toUpper) (trimChars s.toList) word.toList := by
    rw [sameIgnoringCase, beq_iff_eq, hsmall, eq_comm, trim, String.toList_ofList,
      map_toLower_eq_iff hword]
  rw [hsame]
  constructor
  · intro h
    obtain ⟨before, after, hs, hspace⟩ := exists_trimChars s.toList
    exact ⟨before, _, after, hs, fun c hc => isSpace_iff.mp (hspace c hc), h⟩
  · rintro ⟨before, letters, after, hs, hspace, h⟩
    have hbefore : ∀ c ∈ before, isSpace c = true :=
      fun c hc => isSpace_iff.mpr (hspace c (List.mem_append_left _ hc))
    have hafter : ∀ c ∈ after, isSpace c = true :=
      fun c hc => isSpace_iff.mpr (hspace c (List.mem_append_right _ hc))
    -- a letter is no white space
    have hletters : ∀ c ∈ letters, isSpace c = false := by
      intro c hc
      have hletter := hword c.toLower ((map_toLower_eq_iff hword).mpr h ▸ List.mem_map_of_mem hc)
      rw [toNat_toLower] at hletter
      rw [Bool.eq_false_iff, ne_eq]
      simp only [isSpace, Bool.or_eq_true, Bool.and_eq_true, decide_eq_true_eq]
      split_ifs at hletter <;> omega
    rw [hs, trimChars_append hbefore hafter hletters]
    exact h

end Text

namespace ReportFormat

/-- A text names a format. -/
inductive NamedBy : ReportFormat → String → Prop
  /-- Reports to read. -/
  | text {s : String} (h : Text.Spells "text" s) : NamedBy .text s
  /-- Reports for other programs. -/
  | json {s : String} (h : Text.Spells "json" s) : NamedBy .json s

theorem sameIgnoringCase_name_iff {f : ReportFormat} {s : String} :
    Text.sameIgnoringCase f.name (Text.trim s) = true ↔ f.NamedBy s := by
  cases f with
  | text =>
    rw [name, Text.sameIgnoringCase_trim_iff (by decide)]
    exact ⟨.text, fun | .text h => h⟩
  | json =>
    rw [name, Text.sameIgnoringCase_trim_iff (by decide)]
    exact ⟨.json, fun | .json h => h⟩

/-- No text names two formats. -/
theorem NamedBy.unique {f f' : ReportFormat} {s : String} (h : f.NamedBy s) (h' : f'.NamedBy s) :
    f = f' := by
  rw [← sameIgnoringCase_name_iff, Text.sameIgnoringCase, beq_iff_eq] at h h'
  have hnames := h.trans h'.symm
  revert hnames
  cases f <;> cases f' <;> decide

/-- The texts that name a format. -/
theorem ofText?_eq_some_iff {s : String} {f : ReportFormat} :
    ofText? s = some f ↔ f.NamedBy s := by
  have hfound : ∀ {g : ReportFormat}, ofText? s = some g → g.NamedBy s := by
    intro g hg
    rw [ofText?] at hg
    have hname := List.find?_some hg
    exact sameIgnoringCase_name_iff.mp hname
  refine ⟨hfound, fun h => ?_⟩
  obtain ⟨g, hg⟩ : ∃ g, ofText? s = some g := by
    rw [← Option.isSome_iff_exists, ofText?, List.find?_isSome]
    exact ⟨f, by cases f <;> decide, sameIgnoringCase_name_iff.mpr h⟩
  rw [hg, (hfound hg).unique h]

end ReportFormat

end CwlCompliance
