import Recipients.Charset.Utf8

/-
  UTF-8 as a code. A byte string has a text exactly when it is the encoding of that text
  (`decode_eq_some_iff`), so nothing is lost either way, and texts are put together by putting
  their bytes together (`encode_append`).
-/

namespace Recipients
namespace Utf8

/-! ## Bytes and codes -/

theorem toNat_toUInt8 {n : Nat} (h : n < 256) : n.toUInt8.toNat = n := by
  rw [UInt8.toNat_ofNat']
  exact Nat.mod_eq_of_lt h

theorem toUInt8_eq {n : Nat} {b : UInt8} (h : n = b.toNat) : n.toUInt8 = b := by
  rw [h]
  exact UInt8.ofNat_toNat

theorem toNat_ofNat {n : Nat} (h : n.isValidChar) : (Char.ofNat n).toNat = n := by
  unfold Char.ofNat
  rw [dif_pos h]
  rfl

theorem toNat_valid (c : Char) : c.toNat.isValidChar := c.valid

/-! ## The bytes after a lead byte -/

theorem readTail_cons {range : Nat × Nat} {b : UInt8} (h : range.1 ≤ b.toNat ∧ b.toNat ≤ range.2)
    (n code : Nat) (bs : Bytes) :
    readTail (n + 1) range code (b :: bs) =
      readTail n (0x80, 0xBF) (code * 64 + (b.toNat - 0x80)) bs := by
  rw [readTail, if_pos h]

theorem readTail_zero {range : Nat × Nat} {code k : Nat} {bs rest : Bytes}
    (h : readTail 0 range code bs = (some k, rest)) : k = code ∧ rest = bs := by
  rw [readTail, Prod.mk.injEq, Option.some.injEq] at h
  exact ⟨h.1.symm, h.2.symm⟩

/-- A tail that has been read begins with a byte in the range, and the others follow. -/
theorem readTail_eq_some {n : Nat} {range : Nat × Nat} {code k : Nat} {bs rest : Bytes}
    (h : readTail (n + 1) range code bs = (some k, rest)) :
    ∃ b more, bs = b :: more ∧ (range.1 ≤ b.toNat ∧ b.toNat ≤ range.2) ∧
      readTail n (0x80, 0xBF) (code * 64 + (b.toNat - 0x80)) more = (some k, rest) := by
  cases bs with
  | nil => cases h
  | cons b more =>
    rw [readTail] at h
    split at h
    · rename_i hb
      exact ⟨b, more, rfl, hb, h⟩
    · cases h

theorem mem_secondRange {lead b : Nat} :
    ((secondRange lead).1 ≤ b ∧ b ≤ (secondRange lead).2) ↔
      (0x80 ≤ b ∧ b ≤ 0xBF) ∧ (lead = 0xE0 → 0xA0 ≤ b) ∧ (lead = 0xED → b ≤ 0x9F) ∧
        (lead = 0xF0 → 0x90 ≤ b) ∧ (lead = 0xF4 → b ≤ 0x8F) := by
  unfold secondRange
  split
  · omega
  · split
    · omega
    · split
      · omega
      · split <;> omega

/-! ## Single characters -/

theorem encodeChar_one {c : Char} (h : c.toNat < 0x80) : encodeChar c = [c.toNat.toUInt8] :=
  if_pos h

theorem encodeChar_two {c : Char} (h : 0x80 ≤ c.toNat) (h' : c.toNat < 0x800) :
    encodeChar c = [(0xC0 + c.toNat / 64).toUInt8, (0x80 + c.toNat % 64).toUInt8] := by
  unfold encodeChar
  rw [if_neg (by omega), if_pos h']
  simp only [Nat.div_one]

theorem encodeChar_three {c : Char} (h : 0x800 ≤ c.toNat) (h' : c.toNat < 0x10000) :
    encodeChar c = [(0xE0 + c.toNat / 4096).toUInt8, (0x80 + c.toNat / 64 % 64).toUInt8,
      (0x80 + c.toNat % 64).toUInt8] := by
  unfold encodeChar
  rw [if_neg (by omega), if_neg (by omega), if_pos h']
  simp only [Nat.div_one]

theorem encodeChar_four {c : Char} (h : 0x10000 ≤ c.toNat) :
    encodeChar c = [(0xF0 + c.toNat / 262144).toUInt8, (0x80 + c.toNat / 4096 % 64).toUInt8,
      (0x80 + c.toNat / 64 % 64).toUInt8, (0x80 + c.toNat % 64).toUInt8] := by
  unfold encodeChar
  rw [if_neg (by omega), if_neg (by omega), if_neg (by omega)]
  simp only [Nat.div_one]

/-- The four kinds of lead bytes. -/
theorem lead?_eq_some {n count bits : Nat} (h : lead? n = some (count, bits)) :
    (count = 0 ∧ n < 0x80 ∧ bits = n) ∨
    (count = 1 ∧ (0xC2 ≤ n ∧ n ≤ 0xDF) ∧ bits = n - 0xC0) ∨
    (count = 2 ∧ (0xE0 ≤ n ∧ n ≤ 0xEF) ∧ bits = n - 0xE0) ∨
    (count = 3 ∧ (0xF0 ≤ n ∧ n ≤ 0xF4) ∧ bits = n - 0xF0) := by
  unfold lead? at h
  split at h
  · cases h
    exact .inl ⟨rfl, ‹_›, rfl⟩
  · split at h
    · cases h
      exact .inr (.inl ⟨rfl, ‹_›, rfl⟩)
    · split at h
      · cases h
        exact .inr (.inr (.inl ⟨rfl, ‹_›, rfl⟩))
      · split at h
        · cases h
          exact .inr (.inr (.inr ⟨rfl, ‹_›, rfl⟩))
        · cases h

/-- A lead byte and the tail after it are the bytes of the character that is read. -/
theorem encodeChar_of_readTail {b : UInt8} {count bits k : Nat} {bs rest : Bytes}
    (hlead : lead? b.toNat = some (count, bits))
    (h : readTail count (secondRange b.toNat) bits bs = (some k, rest)) :
    b :: bs = encodeChar (Char.ofNat k) ++ rest := by
  rcases lead?_eq_some hlead with
    ⟨rfl, hb, hbits⟩ | ⟨rfl, hb, hbits⟩ | ⟨rfl, hb, hbits⟩ | ⟨rfl, hb, hbits⟩
  · obtain ⟨hcode, rfl⟩ := readTail_zero h
    have hk : (Char.ofNat k).toNat = k := toNat_ofNat (by unfold Nat.isValidChar; omega)
    rw [encodeChar_one (by omega), hk, toUInt8_eq (b := b) (by omega)]
    rfl
  · obtain ⟨b₁, more, rfl, hb₁, h⟩ := readTail_eq_some h
    rw [mem_secondRange] at hb₁
    obtain ⟨hcode, rfl⟩ := readTail_zero h
    have hk : (Char.ofNat k).toNat = k := toNat_ofNat (by unfold Nat.isValidChar; omega)
    rw [encodeChar_two (by omega) (by omega), hk, toUInt8_eq (b := b) (by omega),
      toUInt8_eq (b := b₁) (by omega)]
    rfl
  · obtain ⟨b₁, more, rfl, hb₁, h⟩ := readTail_eq_some h
    obtain ⟨b₂, more, rfl, hb₂, h⟩ := readTail_eq_some h
    rw [mem_secondRange] at hb₁
    obtain ⟨hcode, rfl⟩ := readTail_zero h
    have hk : (Char.ofNat k).toNat = k := toNat_ofNat (by unfold Nat.isValidChar; omega)
    rw [encodeChar_three (by omega) (by omega), hk, toUInt8_eq (b := b) (by omega),
      toUInt8_eq (b := b₁) (by omega), toUInt8_eq (b := b₂) (by omega)]
    rfl
  · obtain ⟨b₁, more, rfl, hb₁, h⟩ := readTail_eq_some h
    obtain ⟨b₂, more, rfl, hb₂, h⟩ := readTail_eq_some h
    obtain ⟨b₃, more, rfl, hb₃, h⟩ := readTail_eq_some h
    rw [mem_secondRange] at hb₁
    obtain ⟨hcode, rfl⟩ := readTail_zero h
    have hk : (Char.ofNat k).toNat = k := toNat_ofNat (by unfold Nat.isValidChar; omega)
    rw [encodeChar_four (by omega), hk, toUInt8_eq (b := b) (by omega),
      toUInt8_eq (b := b₁) (by omega), toUInt8_eq (b := b₂) (by omega),
      toUInt8_eq (b := b₃) (by omega)]
    rfl

theorem readTail_continuation {n : Nat} (hn : n < 64) (count code : Nat) (bs : Bytes) :
    readTail (count + 1) (0x80, 0xBF) code ((0x80 + n).toUInt8 :: bs) =
      readTail count (0x80, 0xBF) (code * 64 + n) bs := by
  have hb : (0x80 + n).toUInt8.toNat = 0x80 + n := toNat_toUInt8 (by omega)
  rw [readTail_cons (by rw [hb]; omega), hb, Nat.add_sub_cancel_left]

/-- The bytes of a character are a lead byte and a tail that is read as its code. -/
theorem readTail_encodeChar (c : Char) :
    ∃ b tail count bits, encodeChar c = b :: tail ∧ lead? b.toNat = some (count, bits) ∧
      ∀ rest, readTail count (secondRange b.toNat) bits (tail ++ rest) = (some c.toNat, rest) := by
  have hvalid := toNat_valid c
  unfold Nat.isValidChar at hvalid
  rcases Nat.lt_or_ge c.toNat 0x80 with h₁ | h₁
  · have hb : c.toNat.toUInt8.toNat = c.toNat := toNat_toUInt8 (by omega)
    refine ⟨_, [], 0, c.toNat, encodeChar_one h₁, ?_, fun rest => rfl⟩
    rw [hb, lead?, if_pos h₁]
  rcases Nat.lt_or_ge c.toNat 0x800 with h₂ | h₂
  · have hb : (0xC0 + c.toNat / 64).toUInt8.toNat = 0xC0 + c.toNat / 64 := toNat_toUInt8 (by omega)
    have hb₁ : (0x80 + c.toNat % 64).toUInt8.toNat = 0x80 + c.toNat % 64 := toNat_toUInt8 (by omega)
    refine ⟨_, _, 1, c.toNat / 64, encodeChar_two h₁ h₂, ?_, fun rest => ?_⟩
    · rw [hb, lead?, if_neg (by omega), if_pos (by omega), Nat.add_sub_cancel_left]
    · rw [List.cons_append, readTail_cons (by rw [mem_secondRange, hb, hb₁]; omega), hb₁, readTail,
        Nat.add_sub_cancel_left, Nat.div_add_mod']
      rfl
  rcases Nat.lt_or_ge c.toNat 0x10000 with h₃ | h₃
  · have hb : (0xE0 + c.toNat / 4096).toUInt8.toNat = 0xE0 + c.toNat / 4096 :=
      toNat_toUInt8 (by omega)
    have hb₁ : (0x80 + c.toNat / 64 % 64).toUInt8.toNat = 0x80 + c.toNat / 64 % 64 :=
      toNat_toUInt8 (by omega)
    refine ⟨_, _, 2, c.toNat / 4096, encodeChar_three h₂ h₃, ?_, fun rest => ?_⟩
    · rw [hb, lead?, if_neg (by omega), if_neg (by omega), if_pos (by omega),
        Nat.add_sub_cancel_left]
    · have hcode : (c.toNat / 4096 * 64 + c.toNat / 64 % 64) * 64 + c.toNat % 64 = c.toNat := by
        omega
      rw [List.cons_append, List.cons_append,
        readTail_cons (by rw [mem_secondRange, hb, hb₁]; omega), hb₁, Nat.add_sub_cancel_left,
        readTail_continuation (Nat.mod_lt _ (by decide)), readTail, hcode]
      rfl
  · have hb : (0xF0 + c.toNat / 262144).toUInt8.toNat = 0xF0 + c.toNat / 262144 :=
      toNat_toUInt8 (by omega)
    have hb₁ : (0x80 + c.toNat / 4096 % 64).toUInt8.toNat = 0x80 + c.toNat / 4096 % 64 :=
      toNat_toUInt8 (by omega)
    refine ⟨_, _, 3, c.toNat / 262144, encodeChar_four h₃, ?_, fun rest => ?_⟩
    · rw [hb, lead?, if_neg (by omega), if_neg (by omega), if_neg (by omega), if_pos (by omega),
        Nat.add_sub_cancel_left]
    · have hcode : ((c.toNat / 262144 * 64 + c.toNat / 4096 % 64) * 64 + c.toNat / 64 % 64) * 64 +
          c.toNat % 64 = c.toNat := by
        omega
      rw [List.cons_append, List.cons_append, List.cons_append,
        readTail_cons (by rw [mem_secondRange, hb, hb₁]; omega), hb₁, Nat.add_sub_cancel_left,
        readTail_continuation (Nat.mod_lt _ (by decide)),
        readTail_continuation (Nat.mod_lt _ (by decide)), readTail, hcode]
      rfl

/-! ## Texts -/

theorem scan_encodeChar (c : Char) (rest : Bytes) :
    scan (encodeChar c ++ rest) = some c :: scan rest := by
  obtain ⟨b, tail, count, bits, hbytes, hlead, htail⟩ := readTail_encodeChar c
  rw [hbytes, List.cons_append, scan]
  simp only [hlead, htail, Option.map_some, Char.ofNat_toNat]

theorem scan_encode (t : Text) (rest : Bytes) : scan (encode t ++ rest) = t.map some ++ scan rest := by
  induction t with
  | nil => rfl
  | cons c t ih =>
    rw [encode, List.flatMap_cons, List.append_assoc, scan_encodeChar, List.map_cons,
      List.cons_append, ← ih]
    rfl

theorem mapM_id_cons (c : Char) (cs : List (Option Char)) :
    (some c :: cs).mapM id = (cs.mapM id).map (c :: ·) := by
  rw [List.mapM_cons]
  cases cs.mapM id <;> rfl

theorem decode_encode (t : Text) : decode (encode t) = some t := by
  have hscan : scan (encode t) = t.map some := by
    rw [← List.append_nil (encode t), scan_encode, scan, List.append_nil]
  rw [decode, hscan]
  clear hscan
  induction t with
  | nil => rfl
  | cons c t ih => rw [List.map_cons, mapM_id_cons, ih]; rfl

/-- Bytes that have a text are the bytes of that text. -/
theorem encode_of_decode {bs : Bytes} {t : Text} (h : decode bs = some t) : bs = encode t := by
  unfold decode at h
  fun_induction scan bs generalizing t with
  | case1 =>
    cases h
    rfl
  | case2 b bs hlead ih => cases h
  | case3 b bs count bits hlead found =>
    rename_i ih
    cases hfound : found.1 with
    | none =>
      rw [hfound] at h
      cases h
    | some k =>
      rw [hfound, Option.map_some, mapM_id_cons, Option.map_eq_some_iff] at h
      obtain ⟨u, hu, rfl⟩ := h
      have hchar := encodeChar_of_readTail hlead (Prod.ext hfound rfl)
      rw [hchar]
      exact congrArg (encodeChar (Char.ofNat k) ++ ·) (ih hu)

/-- Bytes have a text exactly when they are its encoding. -/
theorem decode_eq_some_iff {bs : Bytes} {t : Text} : decode bs = some t ↔ bs = encode t := by
  constructor
  · exact encode_of_decode
  · rintro rfl
    exact decode_encode t

/-- Only a line feed ends in the byte of a line feed. -/
theorem encodeChar_getLast? (c : Char) :
    ∃ b, (encodeChar c).getLast? = some b ∧ (b = 10 ↔ c = '\n') := by
  have hten {n : Nat} (hn : n < 256) : n.toUInt8 = 10 ↔ n = 10 := by
    rw [← UInt8.toNat_inj, toNat_toUInt8 hn]
    rfl
  have hfeed : c.toNat = 10 ↔ c = '\n' := by
    constructor
    · intro h
      rw [← Char.ofNat_toNat c, h]
    · rintro rfl
      rfl
  have htail : ((0x80 + c.toNat % 64).toUInt8 = 10) ↔ 0x80 + c.toNat % 64 = 10 := hten (by omega)
  rw [← hfeed]
  rcases Nat.lt_or_ge c.toNat 0x80 with h₁ | h₁
  · exact ⟨_, by rw [encodeChar_one h₁]; rfl, hten (by omega)⟩
  rcases Nat.lt_or_ge c.toNat 0x800 with h₂ | h₂
  · exact ⟨(0x80 + c.toNat % 64).toUInt8, by rw [encodeChar_two h₁ h₂]; rfl, by rw [htail]; omega⟩
  rcases Nat.lt_or_ge c.toNat 0x10000 with h₃ | h₃
  · exact ⟨(0x80 + c.toNat % 64).toUInt8, by rw [encodeChar_three h₂ h₃]; rfl,
      by rw [htail]; omega⟩
  · exact ⟨(0x80 + c.toNat % 64).toUInt8, by rw [encodeChar_four h₃]; rfl, by rw [htail]; omega⟩

theorem encode_append (s t : Text) : encode (s ++ t) = encode s ++ encode t := List.flatMap_append

end Utf8
end Recipients
