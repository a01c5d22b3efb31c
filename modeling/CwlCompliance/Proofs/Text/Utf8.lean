import CwlCompliance.Text.Utf8
import Mathlib.Data.String.Basic

/-!
# Bytes that are text

Reading bytes strictly and writing a text undo each other: a text can be read from the bytes that
write it, and from no others.

## Main results

* `Utf8.step_append`, `Utf8.eq_append_of_step` — what stands at the start of bytes is a character
  when they start with what writes it.
* `Utf8.decode?_eq_some_iff` — **bytes are read as a text when they write it.**
-/

namespace CwlCompliance.Utf8

variable {b : UInt8} {rest bytes : List UInt8} {low high n code width w : ℕ} {c : Char}

theorem encode_eq_flatMap (s : String) : encode s = s.toList.flatMap String.utf8EncodeChar := by
  have hs : s.toByteArray = s.toList.utf8Encode := by
    rw [← String.toByteArray_ofList, String.ofList_toList]
  rw [encode, String.toUTF8, hs, List.utf8Encode, List.toList_data_toByteArray]

/-! ### One character -/

theorem continued_cons (h : low ≤ b.toNat ∧ b.toNat ≤ high) :
    continued low high (n + 1) code width (b :: rest) =
      continued 0x80 0xBF n (code * 64 + (b.toNat - 0x80)) (width + 1) rest := if_pos h

theorem exists_of_continued (h : continued low high (n + 1) code width bytes = .character c w) :
    ∃ b rest, bytes = b :: rest ∧ (low ≤ b.toNat ∧ b.toNat ≤ high) ∧
      continued 0x80 0xBF n (code * 64 + (b.toNat - 0x80)) (width + 1) rest = .character c w := by
  cases bytes with
  | nil => exact nomatch h
  | cons b rest =>
    rw [continued] at h
    split at h
    · next hb => exact ⟨b, rest, rfl, hb, h⟩
    · exact nomatch h

theorem step_of_lead (hb : 0x80 ≤ b.toNat) (h : followers? b.toNat = some (low, high, n)) :
    step (b :: rest) = continued low high n (leadBits b.toNat n) 1 rest := by
  rw [step, if_neg (by omega), h]

/-- A further byte of a character. -/
theorem tail_toNat (k : ℕ) : (UInt8.ofNat (k % 64 + 128)).toNat = k % 64 + 128 :=
  UInt8.toNat_ofNat_of_lt' (show k % 64 + 128 < 256 by omega)

/-- The bytes that write a character are read as it, whatever follows. -/
theorem step_append (c : Char) (rest : List UInt8) :
    step (String.utf8EncodeChar c ++ rest) =
      .character c (String.utf8EncodeChar c).length := by
  have hvalid : c.val.toNat < 0xD800 ∨ 0xDFFF < c.val.toNat ∧ c.val.toNat < 0x110000 := c.valid
  have hbyte : ∀ {k : ℕ}, k < 256 → (UInt8.ofNat k).toNat = k := UInt8.toNat_ofNat_of_lt'
  have hc : Char.ofNat c.val.toNat = c := Char.ofNat_toNat c
  rw [String.utf8EncodeChar]
  generalize c.val.toNat = v at *
  split_ifs with h1 h2 h3
  · rw [List.singleton_append, step, hbyte (by omega), if_pos (by omega), hc]
    rfl
  · have hlead := hbyte (show v / 64 % 32 + 192 < 256 by omega)
    have hfollow : followers? (v / 64 % 32 + 192) = some (0x80, 0xBF, 1) := by
      rw [followers?, if_pos (by omega)]
    have hcode : leadBits (v / 64 % 32 + 192) 1 * 64 + (v % 64 + 128 - 0x80) = v := by
      show (v / 64 % 32 + 192 - 0xC0) * 64 + _ = v
      omega
    rw [List.cons_append, List.singleton_append,
      step_of_lead (by rw [hlead]; omega) (by rw [hlead, hfollow]), hlead,
      continued_cons (by rw [tail_toNat]; omega), tail_toNat, continued, hcode, hc]
    rfl
  · have hlead := hbyte (show v / 4096 % 16 + 224 < 256 by omega)
    obtain ⟨low, high, hfollow, hrange⟩ : ∃ low high,
        followers? (v / 4096 % 16 + 224) = some (low, high, 2) ∧
          (low ≤ v / 64 % 64 + 128 ∧ v / 64 % 64 + 128 ≤ high) := by
      rw [followers?]
      split_ifs <;> first | omega | exact ⟨_, _, rfl, by omega⟩
    have hcode : (leadBits (v / 4096 % 16 + 224) 2 * 64 + (v / 64 % 64 + 128 - 0x80)) * 64 +
        (v % 64 + 128 - 0x80) = v := by
      show ((v / 4096 % 16 + 224 - 0xE0) * 64 + _) * 64 + _ = v
      omega
    rw [List.cons_append, List.cons_append, List.singleton_append,
      step_of_lead (by rw [hlead]; omega) (by rw [hlead, hfollow]), hlead,
      continued_cons (by rw [tail_toNat]; exact hrange), tail_toNat,
      continued_cons (by rw [tail_toNat]; omega), tail_toNat, continued, hcode, hc]
    rfl
  · have hlead := hbyte (show v / 262144 % 8 + 240 < 256 by omega)
    obtain ⟨low, high, hfollow, hrange⟩ : ∃ low high,
        followers? (v / 262144 % 8 + 240) = some (low, high, 3) ∧
          (low ≤ v / 4096 % 64 + 128 ∧ v / 4096 % 64 + 128 ≤ high) := by
      rw [followers?]
      split_ifs <;> first | omega | exact ⟨_, _, rfl, by omega⟩
    have hcode : ((leadBits (v / 262144 % 8 + 240) 3 * 64 + (v / 4096 % 64 + 128 - 0x80)) * 64 +
        (v / 64 % 64 + 128 - 0x80)) * 64 + (v % 64 + 128 - 0x80) = v := by
      show (((v / 262144 % 8 + 240 - 0xF0) * 64 + _) * 64 + _) * 64 + _ = v
      omega
    rw [List.cons_append, List.cons_append, List.cons_append, List.singleton_append,
      step_of_lead (by rw [hlead]; omega) (by rw [hlead, hfollow]), hlead,
      continued_cons (by rw [tail_toNat]; exact hrange), tail_toNat,
      continued_cons (by rw [tail_toNat]; omega), tail_toNat,
      continued_cons (by rw [tail_toNat]; omega), tail_toNat, continued, hcode, hc]
    rfl

/-- Which bytes lead a character of more than one byte, and what may follow them. -/
theorem followers?_eq_some {k : ℕ} (h : followers? k = some (low, high, n)) :
    (n = 1 ∧ 0xC2 ≤ k ∧ k ≤ 0xDF ∧ low = 0x80 ∧ high = 0xBF) ∨
    (n = 2 ∧ 0xE0 ≤ k ∧ k ≤ 0xEF ∧ 0x80 ≤ low ∧ high ≤ 0xBF ∧ (k = 0xE0 → 0xA0 ≤ low) ∧
      (k = 0xED → high ≤ 0x9F)) ∨
    (n = 3 ∧ 0xF0 ≤ k ∧ k ≤ 0xF4 ∧ 0x80 ≤ low ∧ high ≤ 0xBF ∧ (k = 0xF0 → 0x90 ≤ low) ∧
      (k = 0xF4 → high ≤ 0x8F)) := by
  rw [followers?] at h
  split_ifs at h <;> cases h <;> omega

/-- Bytes that start with what is read as a character start with what writes it. -/
theorem eq_append_of_step (h : step bytes = .character c w) :
    bytes = String.utf8EncodeChar c ++ bytes.drop w := by
  have hnumber : ∀ {k : ℕ}, k < 0xD800 ∨ 0xDFFF < k ∧ k < 0x110000 →
      (Char.ofNat k).val.toNat = k := by
    intro k hk
    rw [Char.ofNat, dif_pos hk]
    rfl
  have hbyte : ∀ (b : UInt8) {k : ℕ}, k = b.toNat → UInt8.ofNat k = b :=
    fun _ _ hk => hk ▸ UInt8.ofNat_toNat
  cases bytes with
  | nil => exact nomatch h
  | cons b rest =>
    have hb := b.toNat_lt
    rw [step] at h
    split at h
    · next hsmall =>
      cases h
      rw [String.utf8EncodeChar, hnumber (by omega), if_pos (by omega), hbyte b rfl]
      rfl
    · next hlarge =>
      cases hfollow : followers? b.toNat with
      | none =>
        rw [hfollow] at h
        exact nomatch h
      | some range =>
        obtain ⟨low, high, n⟩ := range
        rw [hfollow] at h
        rcases followers?_eq_some hfollow with ⟨rfl, hlead⟩ | ⟨rfl, hlead⟩ | ⟨rfl, hlead⟩
        · obtain ⟨b₁, rest, rfl, hb₁, h⟩ := exists_of_continued h
          obtain ⟨rfl, rfl⟩ := Step.character.inj h
          have hcode : leadBits b.toNat 1 = b.toNat - 0xC0 := rfl
          rw [String.utf8EncodeChar, hcode, hnumber (by omega), if_neg (by omega),
            if_pos (by omega), hbyte b (by omega), hbyte b₁ (by omega)]
          rfl
        · obtain ⟨b₁, rest, rfl, hb₁, h⟩ := exists_of_continued h
          obtain ⟨b₂, rest, rfl, hb₂, h⟩ := exists_of_continued h
          obtain ⟨rfl, rfl⟩ := Step.character.inj h
          have hcode : leadBits b.toNat 2 = b.toNat - 0xE0 := rfl
          rw [String.utf8EncodeChar, hcode, hnumber (by omega), if_neg (by omega),
            if_neg (by omega), if_pos (by omega), hbyte b (by omega), hbyte b₁ (by omega),
            hbyte b₂ (by omega)]
          rfl
        · obtain ⟨b₁, rest, rfl, hb₁, h⟩ := exists_of_continued h
          obtain ⟨b₂, rest, rfl, hb₂, h⟩ := exists_of_continued h
          obtain ⟨b₃, rest, rfl, hb₃, h⟩ := exists_of_continued h
          obtain ⟨rfl, rfl⟩ := Step.character.inj h
          have hcode : leadBits b.toNat 3 = b.toNat - 0xF0 := rfl
          rw [String.utf8EncodeChar, hcode, hnumber (by omega), if_neg (by omega),
            if_neg (by omega), if_neg (by omega), hbyte b (by omega), hbyte b₁ (by omega),
            hbyte b₂ (by omega), hbyte b₃ (by omega)]
          rfl

/-! ### Texts -/

theorem decodeChars?_cons (n : ℕ) (b : UInt8) (rest : List UInt8) :
    decodeChars? (n + 1) (b :: rest) = match step (b :: rest) with
      | .character c width => (decodeChars? n ((b :: rest).drop width)).map (c :: ·)
      | .illFormed _ => none := rfl

/-- Enough steps read characters from the bytes that write them. -/
theorem decodeChars?_flatMap (cs : List Char) {n : ℕ}
    (hn : (cs.flatMap String.utf8EncodeChar).length ≤ n) :
    decodeChars? n (cs.flatMap String.utf8EncodeChar) = some cs := by
  induction cs generalizing n with
  | nil => cases n <;> rfl
  | cons c cs ih =>
    have hpos : 0 < (String.utf8EncodeChar c).length :=
      List.length_pos_iff.mpr String.utf8EncodeChar_ne_nil
    rw [List.flatMap_cons, List.length_append] at hn
    obtain ⟨n, rfl⟩ : ∃ m, n = m + 1 := ⟨n - 1, by omega⟩
    rw [List.flatMap_cons]
    cases hbytes : String.utf8EncodeChar c ++ cs.flatMap String.utf8EncodeChar with
    | nil => exact absurd (List.append_eq_nil_iff.mp hbytes).1 String.utf8EncodeChar_ne_nil
    | cons b rest =>
      rw [decodeChars?_cons, ← hbytes, step_append]
      dsimp only
      rw [List.drop_left, ih (by omega), Option.map_some]

/-- Characters are read from the bytes that write them only. -/
theorem eq_flatMap_of_decodeChars? {cs : List Char} (h : decodeChars? n bytes = some cs) :
    bytes = cs.flatMap String.utf8EncodeChar := by
  induction n generalizing bytes cs with
  | zero =>
    cases bytes with
    | nil =>
      cases h
      rfl
    | cons b rest => exact nomatch h
  | succ n ih =>
    cases bytes with
    | nil =>
      cases h
      rfl
    | cons b rest =>
      rw [decodeChars?_cons] at h
      split at h
      · next c width hstep =>
        obtain ⟨cs, hcs, rfl⟩ := Option.map_eq_some_iff.mp h
        rw [List.flatMap_cons, ← ih hcs]
        exact eq_append_of_step hstep
      · exact nomatch h

/-- **Bytes are read as a text when they write it.** -/
theorem decode?_eq_some_iff {s : String} : decode? bytes = some s ↔ bytes = encode s := by
  rw [decode?, Option.map_eq_some_iff, encode_eq_flatMap]
  constructor
  · rintro ⟨cs, hcs, rfl⟩
    rw [String.toList_ofList]
    exact eq_flatMap_of_decodeChars? hcs
  · rintro rfl
    exact ⟨_, decodeChars?_flatMap _ le_rfl, String.ofList_toList⟩

end CwlCompliance.Utf8
