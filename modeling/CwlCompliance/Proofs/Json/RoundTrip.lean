import CwlCompliance.Proofs.Json.Reader
import CwlCompliance.Proofs.Lists

/-!
# Reading back what was written

The text of a value is read back as that value, at any depth and whatever its strings hold: every
escape stands for the character it was made for, a number ends where no further digit follows, and
what stands between the brackets of an array or of an object is read part by part.  So no two
values have the same text.

## Main definitions

* `Json.Reads` — a reader takes something from its text, wherever that text stands.
* `Json.between` — what stands between the brackets of an array or of an object.

## Main results

* `Json.character?_escape`, `Json.string?_quoted` — strings.
* `Json.integer?_toString` — numbers.
* `Json.enclosed?_between` — what stands between brackets.
* `Json.reads_prettyAt`, `Json.read?_pretty` — values.
-/

namespace CwlCompliance.Json

open Yaml.Character (hexValue?)

/-! ### Strings -/

theorem hexValue?_hexDigit {n : ℕ} (h : n < 16) : hexValue? (hexDigit n) = some n := by
  have hall : ∀ n < 16, hexValue? (hexDigit n) = some n := by decide
  exact hall n h

theorem codeUnit?_escape {c : Char} (h : c.toNat < 0x20) (rest : List Char) :
    codeUnit? ('0' :: '0' :: hexDigit (c.toNat / 16) :: hexDigit (c.toNat % 16) :: rest) =
      some (c.toNat, rest) := by
  have hhigh : hexValue? (hexDigit (c.toNat / 16)) = some (c.toNat / 16) :=
    hexValue?_hexDigit (by omega)
  have hlow : hexValue? (hexDigit (c.toNat % 16)) = some (c.toNat % 16) :=
    hexValue?_hexDigit (by omega)
  have hzero : hexValue? '0' = some 0 := by decide
  have hvalue : c.toNat / 16 * 16 + c.toNat % 16 = c.toNat := by omega
  simp [codeUnit?, hhigh, hlow, hzero, hvalue]

/-- Every escape stands for the character it was made for. -/
theorem character?_escape (c : Char) (rest : List Char) :
    character? (escape c ++ rest) = some (c, rest) := by
  by_cases hquote : c = '\x22'
  · subst hquote; rfl
  by_cases hslash : c = '\\'
  · subst hslash; rfl
  by_cases hback : c = '\x08'
  · subst hback; rfl
  by_cases htab : c = '\t'
  · subst htab; rfl
  by_cases hline : c = '\n'
  · subst hline; rfl
  by_cases hform : c = '\x0c'
  · subst hform; rfl
  by_cases hreturn : c = '\r'
  · subst hreturn; rfl
  by_cases hcontrol : c.toNat < 0x20
  · -- no code unit of a control character is one of a pair
    have hsmall : c.toNat < 0xD800 := by omega
    simp [escape, hquote, hslash, hback, htab, hline, hform, hreturn, hcontrol, character?,
      escaped?, codeUnit?_escape hcontrol, hsmall]
  · have hplain : escape c = [c] := by
      simp [escape, hquote, hslash, hback, htab, hline, hform, hreturn, hcontrol]
    rw [hplain, List.singleton_append, character?.eq_def]
    split <;> simp_all

theorem escape_ne_nil (c : Char) : escape c ≠ [] := by
  rw [escape]
  split_ifs <;> simp

/-- No escape is taken for the closing quote. -/
theorem escape_ne_quote (c : Char) (rest cs : List Char) : escape c ++ rest ≠ '\x22' :: cs := by
  intro h
  have hquote : character? ('\x22' :: cs) = some ('\x22', cs) := rfl
  rw [← h, character?_escape, Option.some.injEq, Prod.mk.injEq] at hquote
  -- so it would be the quote, which is escaped
  rw [hquote.1] at h
  exact absurd (List.cons.inj h).1 (by decide)

theorem length_le_escape (s : List Char) : s.length ≤ (s.flatMap escape).length := by
  induction s with
  | nil => simp
  | cons c s ih =>
    have hpos : 0 < (escape c).length := List.length_pos_iff.mpr (escape_ne_nil c)
    rw [List.flatMap_cons, List.length_append, List.length_cons]
    omega

theorem contents?_escape (s rest : List Char) : ∀ fuel : ℕ, s.length < fuel →
    contents? fuel (s.flatMap escape ++ '\x22' :: rest) = some (s, rest) := by
  induction s with
  | nil =>
    intro fuel h
    obtain ⟨fuel, rfl⟩ : ∃ n, fuel = n + 1 := ⟨fuel - 1, by omega⟩
    rfl
  | cons c s ih =>
    intro fuel h
    obtain ⟨fuel, rfl⟩ : ∃ n, fuel = n + 1 := ⟨fuel - 1, by omega⟩
    rw [List.length_cons] at h
    rw [List.flatMap_cons, List.append_assoc, contents?]
    · rw [character?_escape]
      simp [ih fuel (by omega)]
    · exact escape_ne_quote c _

theorem toList_quoted (s : String) :
    (quoted s).toList = '\x22' :: (s.toList.flatMap escape ++ ['\x22']) := by
  simp [quoted]

/-- A string in quotes is read back, whatever its characters are. -/
theorem string?_quoted (s : String) (rest : List Char) :
    string? ((quoted s).toList ++ rest) = some (s, rest) := by
  have hlist : (quoted s).toList ++ rest =
      '\x22' :: (s.toList.flatMap escape ++ '\x22' :: rest) := by
    simp [toList_quoted]
  have hlen := length_le_escape s.toList
  rw [hlist, string?, contents?_escape]
  · simp
  · rw [List.length_append]
    omega

/-! ### Numbers -/

/-- No digit comes next, so that a number that ends here is not read on. -/
def NoDigit (rest : List Char) : Prop := ∀ c cs, rest = c :: cs → c.isDigit = false

theorem noDigit_cons {c : Char} (hc : c.isDigit = false) (cs : List Char) : NoDigit (c :: cs) := by
  rintro d ds ⟨⟩
  exact hc

theorem digit_ne {c d : Char} (hc : c.isDigit = true) (hd : d.isDigit = false) : c ≠ d := by
  rintro rfl
  rw [hc] at hd
  exact absurd hd (by decide)

/-- No zero stands before other digits. -/
theorem head?_toDigits_ne {n : ℕ} (hn : n ≠ 0) : (Nat.toDigits 10 n).head? ≠ some '0' := by
  induction n using Nat.strongRecOn with
  | ind n ih =>
    by_cases hlt : n < 10
    · have hsmall : ∀ n < 10, n ≠ 0 → (Nat.toDigits 10 n).head? ≠ some '0' := by decide
      exact hsmall n hlt hn
    · have hrest : (Nat.toDigits 10 (n / 10)).head? ≠ some '0' := ih _ (by omega) (by omega)
      rw [Nat.toDigits_of_base_le (by decide) (by omega), List.head?_append_of_ne_nil _
        Nat.toDigits_ne_nil]
      exact hrest

/-- A number starts with a digit. -/
theorem exists_cons_repr (n : ℕ) : ∃ c cs, n.repr.toList = c :: cs ∧ c.isDigit = true := by
  obtain ⟨c, cs, hcs⟩ := List.exists_cons_of_ne_nil (Nat.toDigits_ne_nil (n := n) (b := 10))
  have hmem : c ∈ Nat.toDigits 10 n := hcs ▸ List.mem_cons_self
  rw [Nat.toList_repr, hcs]
  exact ⟨c, cs, rfl, Nat.isDigit_of_mem_toDigits (by decide) (by decide) hmem⟩

theorem natural?_repr (n : ℕ) {rest : List Char} (h : NoDigit rest) :
    natural? (n.repr.toList ++ rest) = some (n, rest) := by
  obtain ⟨htake, hdrop⟩ := takeWhile_dropWhile_append (P := Char.isDigit) (l := Nat.toDigits 10 n)
    (fun c hc => Nat.isDigit_of_mem_toDigits (by decide) (by decide) hc) h
  have hzero : ¬((Nat.toDigits 10 n).head? = some '0' ∧ Nat.toDigits 10 n ≠ ['0']) := by
    rintro ⟨hhead, hne⟩
    by_cases hn : n = 0
    · subst hn
      exact hne rfl
    · exact head?_toDigits_ne hn hhead
  have hok : ¬(Nat.toDigits 10 n = [] ∨
      ((Nat.toDigits 10 n).head? = some '0' ∧ Nat.toDigits 10 n ≠ ['0'])) := by
    rintro (hnil | h)
    · exact Nat.toDigits_ne_nil hnil
    · exact hzero h
  rw [Nat.toList_repr, natural?]
  simp only [htake, hdrop]
  rw [if_neg hok, Nat.ofDigitChars_toDigits (by decide) (by decide)]

theorem toList_toString_negSucc (n : ℕ) :
    (toString (Int.negSucc n)).toList = '-' :: (n + 1).repr.toList := by
  rw [show toString (Int.negSucc n) = "-" ++ (n + 1).repr from rfl, String.toList_append]
  rfl

/-- A number is read back where no digit follows it. -/
theorem integer?_toString (i : Int) {rest : List Char} (h : NoDigit rest) :
    integer? ((toString i).toList ++ rest) = some (i, rest) := by
  cases i with
  | ofNat n =>
    obtain ⟨c, cs, hcs, hc⟩ := exists_cons_repr n
    show integer? (n.repr.toList ++ rest) = _
    rw [integer?, natural?_repr n h]
    · rfl
    · -- a digit is no sign
      rw [hcs]
      rintro cs' h'
      exact digit_ne hc (by decide) (List.cons.inj h').1
  | negSucc n =>
    rw [toList_toString_negSucc, List.cons_append, integer?, natural?_repr (n + 1) h]
    rfl

theorem scalar?_integer (i : Int) {rest : List Char} (h : NoDigit rest) :
    scalar? ((toString i).toList ++ rest) = some (.integer i, rest) := by
  have hread := integer?_toString i h
  cases i with
  | ofNat n =>
    obtain ⟨c, cs, hcs, hc⟩ := exists_cons_repr n
    have hne : ∀ d : Char, d.isDigit = false → c ≠ d := fun d hd => digit_ne hc hd
    have hlist : (toString (Int.ofNat n)).toList = c :: cs := hcs
    rw [hlist, List.cons_append] at hread ⊢
    rw [scalar?, hread]
    · rfl
    -- a digit starts no other scalar
    all_goals
      intro cs' h'
      exact hne _ (by decide) (List.cons.inj h').1
  | negSucc n =>
    rw [toList_toString_negSucc, List.cons_append] at hread ⊢
    rw [scalar?, hread]
    · rfl
    all_goals simp

/-! ### White space -/

theorem isSpace_newline (depth : ℕ) : ∀ c ∈ (newline depth).toList, isSpace c = true := by
  intro c hc
  rw [newline, String.toList_ofList, List.mem_cons] at hc
  rcases hc with rfl | hc
  · decide
  · rw [(List.mem_replicate.mp hc).2]
    decide

theorem noDigit_newline_append (depth : ℕ) (cs : List Char) :
    NoDigit ((newline depth).toList ++ cs) := by
  rw [newline, String.toList_ofList]
  exact noDigit_cons (by decide) _

theorem skipSpace_append {space : List Char} (h : ∀ c ∈ space, isSpace c = true) (cs : List Char) :
    skipSpace (space ++ cs) = skipSpace cs :=
  List.dropWhile_append_of_pos h

theorem skipSpace_cons {c : Char} (hc : isSpace c = false) (cs : List Char) :
    skipSpace (c :: cs) = c :: cs := by
  rw [skipSpace, List.dropWhile_cons_of_neg (by rw [hc]; decide)]

/-! ### Parts -/

section Parts

variable {α : Type}

/-- A reader takes something from its text, after white space and where no digit follows. -/
def Reads (part? : Reader α) (text : List Char) (a : α) : Prop :=
  ∀ space rest, (∀ c ∈ space, isSpace c = true) → NoDigit rest →
    part? (space ++ (text ++ rest)) = some (a, rest)

/-- Further parts at a depth, each after a comma. -/
def further (depth : ℕ) (write : α → List Char) (as : List α) : List Char :=
  as.flatMap fun a => ',' :: ((newline depth).toList ++ write a)

/-- What stands between the brackets of an array or of an object at a depth. -/
def between (depth : ℕ) (write : α → List Char) : List α → List Char
  | [] => []
  | a :: as => (newline (depth + 1)).toList ++
      (write a ++ (further (depth + 1) write as ++ (newline depth).toList))

theorem further_cons (depth : ℕ) (write : α → List Char) (a : α) (as : List α) :
    further depth write (a :: as) =
      ',' :: ((newline depth).toList ++ (write a ++ further depth write as)) := by
  simp [further]

theorem length_le_further (depth : ℕ) (write : α → List Char) (as : List α) :
    as.length ≤ (further depth write as).length := by
  induction as with
  | nil => simp
  | cons a as ih =>
    rw [further_cons]
    simp only [List.length_cons, List.length_append]
    omega

theorem length_write_le_further (depth : ℕ) (write : α → List Char) {as : List α} {a : α}
    (ha : a ∈ as) : (write a).length ≤ (further depth write as).length := by
  induction as with
  | nil => exact absurd ha List.not_mem_nil
  | cons b as ih =>
    rw [further_cons]
    simp only [List.length_cons, List.length_append]
    rcases List.mem_cons.mp ha with rfl | ha
    · omega
    · have hrest := ih ha
      omega

theorem length_write_le_between (depth : ℕ) (write : α → List Char) {as : List α} {a : α}
    (ha : a ∈ as) : (write a).length ≤ (between depth write as).length := by
  cases as with
  | nil => exact absurd ha List.not_mem_nil
  | cons b as =>
    rw [between]
    simp only [List.length_append]
    rcases List.mem_cons.mp ha with rfl | ha
    · omega
    · have hrest := length_write_le_further (depth + 1) write ha
      omega

variable {part? : Reader α} {close : Char} {write : α → List Char}

theorem parts?_further (hclose : close ≠ ',') (hspace : isSpace close = false)
    (depth depth' : ℕ) (rest : List Char) {as : List α}
    (has : ∀ a ∈ as, Reads part? (write a) a) :
    ∀ {a : α} (fuel : ℕ), Reads part? (write a) a → as.length < fuel →
    ∀ space, (∀ c ∈ space, isSpace c = true) →
      parts? close part? fuel (space ++ (write a ++ (further depth write as ++
        ((newline depth').toList ++ close :: rest)))) = some (a :: as, rest) := by
  induction as with
  | nil =>
    intro a fuel ha hfuel space hs
    obtain ⟨fuel, rfl⟩ : ∃ n, fuel = n + 1 := ⟨fuel - 1, by omega⟩
    have hlast : skipSpace ((newline depth').toList ++ close :: rest) = close :: rest := by
      rw [skipSpace_append (isSpace_newline depth'), skipSpace_cons hspace]
    rw [further, List.flatMap_nil, List.nil_append, parts?,
      ha space _ hs (noDigit_newline_append depth' _)]
    simp [hlast]
  | cons b as ih =>
    intro a fuel ha hfuel space hs
    obtain ⟨fuel, rfl⟩ : ∃ n, fuel = n + 1 := ⟨fuel - 1, by omega⟩
    rw [List.forall_mem_cons] at has
    rw [List.length_cons] at hfuel
    have hrest := ih has.2 fuel has.1 (by omega) _ (isSpace_newline depth)
    rw [further_cons, List.cons_append, parts?, ha space _ hs (noDigit_cons (by decide) _)]
    simp only [Option.bind_eq_bind, Option.bind_some, List.append_assoc]
    -- the comma is no closing bracket, so reading goes on behind it
    rw [skipSpace_cons (by decide)]
    simp [Ne.symm hclose, hrest]

/-- Parts are read back up to the closing bracket, if none of them starts with that bracket. -/
theorem enclosed?_between (hclose : close ≠ ',') (hspace : isSpace close = false)
    (depth : ℕ) (rest : List Char) {as : List α} (has : ∀ a ∈ as, Reads part? (write a) a)
    (hstart : ∀ a ∈ as, ∃ c cs, write a = c :: cs ∧ isSpace c = false ∧ c ≠ close) :
    enclosed? close part? (between depth write as ++ close :: rest) = some (as, rest) := by
  cases as with
  | nil =>
    rw [between, List.nil_append, enclosed?, skipSpace_cons hspace]
    exact if_pos rfl
  | cons a as =>
    rw [List.forall_mem_cons] at has
    obtain ⟨c, cs, hwrite, hc, hne⟩ := hstart a List.mem_cons_self
    have hlen := length_le_further (depth + 1) write as
    have hfuel : as.length < (between depth write (a :: as) ++ close :: rest).length := by
      simp only [between, List.length_append, List.length_cons]
      omega
    have hparts := parts?_further hclose hspace (depth + 1) depth rest has.2 _ has.1 hfuel []
      (by simp)
    -- the first part is there, and it is not taken for the closing bracket
    have hskip : skipSpace (between depth write (a :: as) ++ close :: rest) = c :: (cs ++
        (further (depth + 1) write as ++ ((newline depth).toList ++ close :: rest))) := by
      rw [between, List.append_assoc, skipSpace_append (isSpace_newline _), hwrite]
      simp only [List.append_assoc, List.cons_append]
      rw [skipSpace_cons hc]
    rw [hwrite, List.nil_append, List.cons_append] at hparts
    rw [enclosed?, hskip]
    simp only [if_neg hne]
    exact hparts

end Parts

/-! ### The text of a value -/

namespace Value

/-- What holds of a value if it holds of what the value is made of. -/
theorem induction {motive : Value → Prop} (null : motive .null)
    (bool : ∀ b, motive (.bool b)) (integer : ∀ i, motive (.integer i))
    (string : ∀ s, motive (.string s))
    (array : ∀ vs, (∀ v ∈ vs, motive v) → motive (.array vs))
    (object : ∀ fs, (∀ f ∈ fs, motive f.2) → motive (.object fs)) (v : Value) : motive v := by
  refine @Value.rec motive (fun vs => ∀ v ∈ vs, motive v) (fun fs => ∀ f ∈ fs, motive f.2)
    (fun f => motive f.2) null bool integer string (fun vs h => array vs h)
    (fun fs h => object fs h) ?_ ?_ ?_ ?_ ?_ v
  · simp
  · intro v vs hv hvs
    exact List.forall_mem_cons.mpr ⟨hv, hvs⟩
  · simp
  · intro f fs hf hfs
    exact List.forall_mem_cons.mpr ⟨hf, hfs⟩
  · intro k v hv
    exact hv

theorem toList_prettyItems (depth : ℕ) (vs : List Value) : (prettyItems depth vs).toList =
    further depth (fun v => (v.prettyAt depth).toList) vs := by
  induction vs with
  | nil => rw [prettyItems]; rfl
  | cons v vs ih => rw [prettyItems, further_cons, ← ih]; simp

/-- A member as it is written. -/
def memberText (depth : ℕ) (f : String × Value) : List Char :=
  (quoted f.1).toList ++ ':' :: ' ' :: (f.2.prettyAt depth).toList

theorem length_prettyAt_le_memberText (depth : ℕ) (f : String × Value) :
    (f.2.prettyAt depth).toList.length ≤ (memberText depth f).length := by
  simp only [memberText, List.length_append, List.length_cons]
  omega

theorem toList_prettyFields (depth : ℕ) (fs : List (String × Value)) :
    (prettyFields depth fs).toList = further depth (memberText depth) fs := by
  induction fs with
  | nil => rw [prettyFields]; rfl
  | cons f fs ih => rw [prettyFields, further_cons, ← ih]; simp [memberText]

theorem toList_prettyAt_array (depth : ℕ) (vs : List Value) :
    (prettyAt depth (.array vs)).toList =
      '[' :: (between depth (fun v => (v.prettyAt (depth + 1)).toList) vs ++ [']']) := by
  cases vs with
  | nil => simp [prettyAt, between]
  | cons v vs => rw [prettyAt, between, ← toList_prettyItems]; simp

theorem toList_prettyAt_object (depth : ℕ) (fs : List (String × Value)) :
    (prettyAt depth (.object fs)).toList =
      '\x7b' :: (between depth (memberText (depth + 1)) fs ++ ['\x7d']) := by
  cases fs with
  | nil => simp [prettyAt, between]
  | cons f fs => rw [prettyAt, between, ← toList_prettyFields]; simp [memberText]

/-- The text of a number starts with what is neither white space nor a bracket. -/
theorem exists_cons_toString (i : Int) : ∃ c cs, (toString i).toList = c :: cs ∧
    isSpace c = false ∧ c ≠ '[' ∧ c ≠ '\x7b' ∧ c ≠ ']' := by
  cases i with
  | ofNat n =>
    obtain ⟨c, cs, hcs, hc⟩ := exists_cons_repr n
    have hne : ∀ d : Char, d.isDigit = false → c ≠ d := fun d hd => digit_ne hc hd
    refine ⟨c, cs, hcs, ?_, hne _ (by decide), hne _ (by decide), hne _ (by decide)⟩
    simp [isSpace, hne ' ' (by decide), hne '\t' (by decide), hne '\n' (by decide),
      hne '\r' (by decide)]
  | negSucc n =>
    exact ⟨'-', _, toList_toString_negSucc n, by decide, by decide, by decide, by decide⟩

/-- No value starts with white space or with the closing bracket of the array it is in. -/
theorem exists_cons_prettyAt (v : Value) (depth : ℕ) : ∃ c cs,
    (v.prettyAt depth).toList = c :: cs ∧ isSpace c = false ∧ c ≠ ']' := by
  cases v with
  | null => exact ⟨'n', ['u', 'l', 'l'], by simp [prettyAt], by decide, by decide⟩
  | bool b =>
    cases b with
    | true => exact ⟨'t', ['r', 'u', 'e'], by simp [prettyAt], by decide, by decide⟩
    | false => exact ⟨'f', ['a', 'l', 's', 'e'], by simp [prettyAt], by decide, by decide⟩
  | integer i =>
    obtain ⟨c, cs, hcs, hspace, -, -, hne⟩ := exists_cons_toString i
    rw [prettyAt]
    exact ⟨c, cs, hcs, hspace, hne⟩
  | string s =>
    rw [prettyAt]
    exact ⟨'\x22', _, toList_quoted s, by decide, by decide⟩
  | array vs => exact ⟨'[', _, toList_prettyAt_array depth vs, by decide, by decide⟩
  | object fs => exact ⟨'\x7b', _, toList_prettyAt_object depth fs, by decide, by decide⟩

end Value

/-! ### Values -/

/-- A text that starts neither an array nor an object is read as a scalar. -/
theorem reads_scalar {v : Value} {text cs : List Char} {c : Char} (htext : text = c :: cs)
    (hc : isSpace c = false) (harray : c ≠ '[') (hobject : c ≠ '\x7b') {fuel : ℕ}
    (hfuel : text.length ≤ fuel)
    (h : ∀ rest, NoDigit rest → scalar? (text ++ rest) = some (v, rest)) :
    Reads (value? fuel) text v := by
  intro space rest hspace hrest
  rw [← h rest hrest]
  subst htext
  obtain ⟨fuel, rfl⟩ : ∃ n, fuel = n + 1 := ⟨fuel - 1, by rw [List.length_cons] at hfuel; omega⟩
  rw [List.cons_append, value?, skipSpace_append hspace, skipSpace_cons hc]
  split
  · next h => exact absurd (List.cons.inj h).1 harray
  · next h => exact absurd (List.cons.inj h).1 hobject
  · rfl

/-- A member is read back if its value is. -/
theorem reads_memberText {value? : Reader Value} {f : String × Value} {depth : ℕ}
    (h : Reads value? (f.2.prettyAt depth).toList f.2) :
    Reads (member? value?) (Value.memberText depth f) f := by
  intro space rest hspace hrest
  set after := (f.2.prettyAt depth).toList ++ rest with hafter
  have hblank : ∀ c ∈ [' '], isSpace c = true := by
    intro c hc
    rw [List.mem_singleton.mp hc]
    rfl
  have hvalue : value? (' ' :: after) = some (f.2, rest) := h [' '] rest hblank hrest
  have hquote : skipSpace ((quoted f.1).toList ++ ':' :: ' ' :: after) =
      (quoted f.1).toList ++ ':' :: ' ' :: after := by
    rw [toList_quoted, List.cons_append, skipSpace_cons (by decide)]
  have hcolon : skipSpace (':' :: ' ' :: after) = ':' :: ' ' :: after :=
    skipSpace_cons (by decide) _
  rw [member?, skipSpace_append hspace, Value.memberText, List.append_assoc, List.cons_append,
    List.cons_append, ← hafter, hquote, string?_quoted]
  simp only [Option.bind_eq_bind, Option.bind_some, hcolon, hvalue]
  rfl

/-- An array is read back if what it holds is. -/
theorem reads_array {fuel depth : ℕ} {vs : List Value}
    (h : ∀ v ∈ vs, Reads (value? fuel) (v.prettyAt (depth + 1)).toList v) :
    Reads (value? (fuel + 1)) ((Value.array vs).prettyAt depth).toList (.array vs) := by
  intro space rest hspace _
  have hitems : enclosed? ']' (value? fuel) (between depth
      (fun v : Value => (v.prettyAt (depth + 1)).toList) vs ++ ']' :: rest) = some (vs, rest) :=
    enclosed?_between (by decide) (by decide) depth rest h
      (fun v _ => v.exists_cons_prettyAt (depth + 1))
  rw [Value.toList_prettyAt_array, List.cons_append, List.append_assoc, value?,
    skipSpace_append hspace, skipSpace_cons (by decide)]
  simp only [List.cons_append, List.nil_append, hitems]
  rfl

/-- An object is read back if the values of its members are. -/
theorem reads_object {fuel depth : ℕ} {fs : List (String × Value)}
    (h : ∀ f ∈ fs, Reads (value? fuel) (f.2.prettyAt (depth + 1)).toList f.2) :
    Reads (value? (fuel + 1)) ((Value.object fs).prettyAt depth).toList (.object fs) := by
  intro space rest hspace _
  -- a member starts with the quote of its name
  have hstart : ∀ f ∈ fs, ∃ c cs, Value.memberText (depth + 1) f = c :: cs ∧
      isSpace c = false ∧ c ≠ '\x7d' := by
    intro f _
    rw [Value.memberText, toList_quoted]
    exact ⟨'\x22', _, rfl, by decide, by decide⟩
  have hmembers := enclosed?_between (by decide) (by decide) depth rest
    (fun f hf => reads_memberText (h f hf)) hstart
  rw [Value.toList_prettyAt_object, List.cons_append, List.append_assoc, value?,
    skipSpace_append hspace, skipSpace_cons (by decide)]
  simp only [List.cons_append, List.nil_append, hmembers]
  rfl

/-- The text of a value is read back as that value, with fuel for its characters. -/
theorem reads_prettyAt (v : Value) : ∀ (fuel depth : ℕ), (v.prettyAt depth).toList.length ≤ fuel →
    Reads (value? fuel) (v.prettyAt depth).toList v := by
  induction v using Value.induction with
  | null =>
    intro fuel depth hfuel
    have htext : (Value.null.prettyAt depth).toList = ['n', 'u', 'l', 'l'] := by
      simp [Value.prettyAt]
    refine reads_scalar htext (by decide) (by decide) (by decide) hfuel fun rest _ => ?_
    rw [htext]
    rfl
  | bool b =>
    intro fuel depth hfuel
    cases b with
    | true =>
      have htext : ((Value.bool true).prettyAt depth).toList = ['t', 'r', 'u', 'e'] := by
        simp [Value.prettyAt]
      refine reads_scalar htext (by decide) (by decide) (by decide) hfuel fun rest _ => ?_
      rw [htext]
      rfl
    | false =>
      have htext : ((Value.bool false).prettyAt depth).toList = ['f', 'a', 'l', 's', 'e'] := by
        simp [Value.prettyAt]
      refine reads_scalar htext (by decide) (by decide) (by decide) hfuel fun rest _ => ?_
      rw [htext]
      rfl
  | integer i =>
    intro fuel depth hfuel
    obtain ⟨c, cs, hcs, hspace, harray, hobject, -⟩ := Value.exists_cons_toString i
    rw [Value.prettyAt] at hfuel ⊢
    exact reads_scalar hcs hspace harray hobject hfuel fun rest hrest => scalar?_integer i hrest
  | string s =>
    intro fuel depth hfuel
    rw [Value.prettyAt] at hfuel ⊢
    refine reads_scalar (toList_quoted s) (by decide) (by decide) (by decide) hfuel
      fun rest _ => ?_
    have hstring := string?_quoted s rest
    rw [toList_quoted, List.cons_append] at hstring ⊢
    rw [scalar?, hstring]
    rfl
  | array vs ih =>
    intro fuel depth hfuel
    rw [Value.toList_prettyAt_array, List.length_cons, List.length_append] at hfuel
    obtain ⟨fuel, rfl⟩ : ∃ n, fuel = n + 1 := ⟨fuel - 1, by omega⟩
    -- every item is shorter than the array
    refine reads_array fun v hv => ih v hv fuel (depth + 1) ?_
    have hlen := length_write_le_between depth (fun v => (v.prettyAt (depth + 1)).toList) hv
    omega
  | object fs ih =>
    intro fuel depth hfuel
    rw [Value.toList_prettyAt_object, List.length_cons, List.length_append] at hfuel
    obtain ⟨fuel, rfl⟩ : ∃ n, fuel = n + 1 := ⟨fuel - 1, by omega⟩
    refine reads_object fun f hf => ih f hf fuel (depth + 1) ?_
    have hlen := length_write_le_between depth (Value.memberText (depth + 1)) hf
    have hvalue := Value.length_prettyAt_le_memberText (depth + 1) f
    omega

/-- **A value is read back from its text**, so the text says all that the value holds. -/
theorem read?_pretty (v : Value) : read? v.pretty = some v := by
  have hlen : v.pretty.toList.length ≤ v.pretty.length + 1 := by
    rw [String.length_toList]
    omega
  have hread := reads_prettyAt v (v.pretty.length + 1) 0 hlen [] [] (by simp)
    (by rintro c cs ⟨⟩)
  rw [List.nil_append, List.append_nil, ← Value.pretty] at hread
  rw [read?, hread]
  rfl

/-- Other spellings of a text are read as well: two code units stand for one character. -/
example : string? "\"\\ud83d\\ude00\\/\" tail".toList = some ("😀/", " tail".toList) := by
  decide +kernel

/-- What the grammar refuses is not read. -/
example : ∀ s ∈ ["[1,]", "[01]", "\"\\ud83d\"", "\"a\nb\"", "null null", ""],
    (read? s).isNone = true := by
  decide +kernel

end CwlCompliance.Json
