import Recipients.Proofs.Charset.Gb18030

/-
  GB 18030 and GBK as codes. What was written is read as it was, but for the private characters that are
  written as in an earlier edition, whose two bytes are read as other characters now (`rereadAs`).
-/

namespace Recipients.Charset
namespace Gb18030

/-- The character that is read where `c` was written. -/
def rereadAs (c : Char) : Char :=
  ((earlier.lookup c.toNat).bind fun bs => two? bs.1 bs.2).getD c

theorem rereadAs_of_ne {c : Char} (h : earlier.lookup c.toNat = none) : rereadAs c = c := by
  rw [rereadAs, h]
  rfl

/-! ## What is read -/

theorem ofNat_ne_feed {n : Nat} (h : n ≠ 10) : Char.ofNat n ≠ '\n' := by
  by_cases hvalid : n.isValidChar
  · intro hfeed
    have hcode := congrArg Char.toNat hfeed
    rw [Utf8.toNat_ofNat hvalid] at hcode
    exact h hcode
  · unfold Char.ofNat
    rw [dif_neg hvalid]
    decide

theorem two?_eq_some {a b : UInt8} {c : Char} (h : two? a b = some c) :
    0x40 ≤ b ∧ Index.gb18030.char? (twoPlace a b) = some c := by
  unfold two? at h
  split at h
  · exact ⟨by grind, h⟩
  · cases h

theorem four?_eq_some {a b c d : UInt8} {x : Char} (h : four? a b c d = some x) :
    isDigit b = true ∧ isDigit d = true ∧ x ≠ '\n' := by
  unfold four? at h
  split at h
  · rename_i hbytes
    simp only [Bool.and_eq_true] at hbytes
    refine ⟨hbytes.1.1, hbytes.2, ?_⟩
    unfold charAt? at h
    split at h
    · cases h
    · split at h
      · rw [← Option.some.inj h]
        decide
      · obtain ⟨s, hs, hx⟩ := Option.map_eq_some_iff.1 h
        have hstart : ∀ s ∈ stretches, 0x80 ≤ s.2 := by decide +kernel
        have := hstart s (List.mem_filter.1 (List.mem_of_getLast? hs)).1
        rw [← hx]
        exact ofNat_ne_feed (by omega)
  · cases h

theorem isLead_iff {a : UInt8} : isLead a = true ↔ 0x81 ≤ a ∧ a ≤ 0xFE := by
  simp [isLead]

theorem isDigit_iff {b : UInt8} : isDigit b = true ↔ 0x30 ≤ b ∧ b ≤ 0x39 := by
  simp [isDigit]

/-- What can be read at the front: a byte of ASCII, the euro sign, two bytes or four. -/
theorem next_cases {a : UInt8} {r rest : Bytes} {t : Text} (h : next a r = some (t, rest)) :
    (a < 0x80 ∧ rest = r ∧ t = [Char.ofNat a.toNat]) ∨
    (a = 0x80 ∧ rest = r ∧ t = [Char.ofNat 0x20AC]) ∨
    (isLead a = true ∧ ∃ b c d x, r = b :: c :: d :: rest ∧ four? a b c d = some x ∧ t = [x]) ∨
    (isLead a = true ∧ ∃ b x, r = b :: rest ∧ two? a b = some x ∧ t = [x]) := by
  unfold next at h
  split at h
  · rename_i ha
    cases h
    exact .inl ⟨ha, rfl, rfl⟩
  refine .inr ?_
  split at h
  · rename_i ha
    cases h
    exact .inl ⟨ha, rfl, rfl⟩
  refine .inr ?_
  split at h
  · rename_i hlead
    cases r with
    | nil => cases h
    | cons b r =>
      dsimp only at h
      split at h
      · split at h
        · obtain ⟨x, hx, hrest⟩ := Option.map_eq_some_iff.1 h
          cases hrest
          exact .inl ⟨hlead, b, _, _, x, rfl, hx, rfl⟩
        · cases h
      · obtain ⟨x, hx, hrest⟩ := Option.map_eq_some_iff.1 h
        cases hrest
        exact .inr ⟨hlead, b, x, rfl, hx, rfl⟩
  · cases h

theorem isGroup_ascii {a : UInt8} (ha : a < 0x80) : IsGroup next [a] [Char.ofNat a.toNat] := by
  refine ⟨a, [], rfl, fun more => ?_⟩
  unfold next
  exact if_pos ha

theorem isGroup_euro : IsGroup next [0x80] [Char.ofNat 0x20AC] := ⟨0x80, [], rfl, fun _ => rfl⟩

section

variable {a : UInt8} (ha : isLead a = true)
include ha

theorem not_ascii_of_isLead : ¬a < 0x80 ∧ a ≠ 0x80 := by
  rw [isLead_iff] at ha
  grind

theorem isGroup_two {b : UInt8} {x : Char} (h : two? a b = some x) : IsGroup next [a, b] [x] := by
  obtain ⟨hlow, heuro⟩ := not_ascii_of_isLead ha
  have hdigit : isDigit b = false := by
    rw [Bool.eq_false_iff, ne_eq, isDigit_iff]
    have := (two?_eq_some h).1
    grind
  refine ⟨a, [b], rfl, fun more => ?_⟩
  simp only [next, if_neg hlow, if_neg heuro, ha, if_true, List.cons_append, hdigit, Bool.false_eq_true,
    if_false, h, Option.map_some, List.nil_append]

theorem isGroup_four {b c d : UInt8} {x : Char} (h : four? a b c d = some x) :
    IsGroup next [a, b, c, d] [x] := by
  obtain ⟨hlow, heuro⟩ := not_ascii_of_isLead ha
  refine ⟨a, [b, c, d], rfl, fun more => ?_⟩
  simp only [next, if_neg hlow, if_neg heuro, ha, if_true, List.cons_append, (four?_eq_some h).1, h,
    Option.map_some, List.nil_append]

end

/-- Both charsets read the same. -/
theorem isCode_of_written {write : Char → Option Bytes}
    (hwritten : ∀ c bs, write c = some bs → IsGroup next bs [rereadAs c]) :
    IsCode next write rereadAs where
  front := by
    intro a r rest t h
    rcases next_cases h with ⟨ha, rfl, rfl⟩ | ⟨rfl, rfl, rfl⟩ | ⟨ha, b, c, d, x, rfl, hx, rfl⟩ |
      ⟨ha, b, x, rfl, hx, rfl⟩
    · refine ⟨[], rfl, isGroup_ascii ha, List.cons_ne_nil _ _, ?_⟩
      simpa using ofNat_eq_feed a
    · exact ⟨[], rfl, isGroup_euro, List.cons_ne_nil _ _, by decide⟩
    · refine ⟨[b, c, d], rfl, isGroup_four ha hx, List.cons_ne_nil _ _, ?_⟩
      obtain ⟨-, hd, hfeed⟩ := four?_eq_some hx
      have hten : d ≠ 10 := by
        rintro rfl
        cases hd
      simp [hten, hfeed]
    · refine ⟨[b], rfl, isGroup_two ha hx, List.cons_ne_nil _ _, ?_⟩
      obtain ⟨hb, hchar⟩ := two?_eq_some hx
      have hten : b ≠ 10 := by
        rintro rfl
        revert hb
        decide
      simp [hten, not_feed (Index.char?_not_ascii isSound hchar)]
  feed r := rfl
  written h := hwritten _ _ h

/-! ## What is written -/

theorem isGroup_ascii_written {c : Char} (hc : c.toNat < 0x80) :
    IsGroup next [c.toNat.toUInt8] [rereadAs c] := by
  obtain ⟨hlow, hchar⟩ := low_byte hc
  have hnone : earlier.lookup c.toNat = none := by
    rw [List.lookup_eq_none_iff]
    have hprivate : ∀ e ∈ earlier, 0x80 ≤ e.1 := by decide
    intro e he
    have := hprivate e he
    rw [bne_iff_ne]
    omega
  have hgroup := isGroup_ascii hlow
  rw [hchar] at hgroup
  rw [rereadAs_of_ne hnone]
  exact hgroup

/-- The two bytes of an earlier edition are read, as another character. -/
theorem isGroup_earlier {n : Nat} {a b : UInt8} (h : (n, a, b) ∈ earlier) :
    ∃ x, two? a b = some x ∧ x.toNat ≠ n ∧ IsGroup next [a, b] [x] := by
  obtain ⟨x, hx, hne⟩ := isSound_and_complete.2.2 _ h
  have hbytes : ∀ e ∈ earlier, isLead e.2.1 = true ∧
      ((0x40 ≤ e.2.2 ∧ e.2.2 ≤ 0x7E) ∨ (0x80 ≤ e.2.2 ∧ e.2.2 ≤ 0xFE)) := by decide
  obtain ⟨ha, hb⟩ := hbytes _ h
  have htwo : two? a b = some x := (if_pos hb).trans hx
  exact ⟨x, htwo, hne, isGroup_two ha htwo⟩

/-- Only the characters of an earlier edition are read as other characters. -/
theorem rereadAs_eq_iff {c : Char} : rereadAs c = c ↔ earlier.lookup c.toNat = none := by
  refine ⟨fun h => ?_, rereadAs_of_ne⟩
  cases hearlier : earlier.lookup c.toNat with
  | none => rfl
  | some bs =>
    obtain ⟨x, htwo, hne, -⟩ := isGroup_earlier (mem_of_lookup hearlier)
    rw [rereadAs, hearlier, Option.bind_some, htwo] at h
    exact absurd (congrArg Char.toNat h) hne

theorem isGroup_writeTwo {c : Char} {bs : Bytes} (h : writeTwo c = some bs) :
    IsGroup next bs [rereadAs c] := by
  unfold writeTwo at h
  split at h
  · cases h
  split at h
  · rename_i a b hearlier
    obtain ⟨x, htwo, -, hgroup⟩ := isGroup_earlier (mem_of_lookup hearlier)
    rw [← Option.some.inj h, rereadAs, hearlier, Option.bind_some, htwo]
    exact hgroup
  · rename_i hnone
    obtain ⟨p, hp, rfl⟩ := Option.map_eq_some_iff.1 h
    obtain ⟨hchar, hbound⟩ := Index.char?_of_mem_places isSound (List.mem_of_head? hp)
    rw [length_eq] at hbound
    have ha : (p / 190 + 0x81).toUInt8.toNat = p / 190 + 0x81 := Utf8.toNat_toUInt8 (by omega)
    have hlead : isLead (p / 190 + 0x81).toUInt8 = true :=
      isLead_iff.2 (byte_between (by simp; omega))
    obtain ⟨hrange, htrail⟩ := trail_byte 0x80 0xFE (p % 190) 0x41 (by omega) rfl (by simp; omega) rfl
    rw [rereadAs_of_ne hnone]
    refine isGroup_two hlead ?_
    rw [two?, if_pos hrange, ha, htrail, Nat.add_sub_cancel, Nat.div_add_mod', hchar]

theorem isGroup_writeFour {c : Char} {bs : Bytes} (htwo : writeTwo c = none)
    (h : writeFour c = some bs) : IsGroup next bs [rereadAs c] := by
  unfold writeFour at h
  split at h
  · cases h
  rename_i hnone
  obtain ⟨p, hp, rfl⟩ := Option.map_eq_some_iff.1 h
  have hgap : c.toNat = outOfSequence.2 ∨ ∀ g ∈ gaps, ¬(g.1 ≤ c.toNat ∧ c.toNat < g.2) := by
    refine or_iff_not_imp_left.2 fun hout g hg hc => ?_
    rcases writeTwo_of_gap hg hc with h | h | ⟨bs, h⟩
    · exact hnone h
    · exact hout h
    · rw [htwo] at h
      cases h
  obtain ⟨hchar, hbound⟩ := charAt?_of_placeOf? hp hgap
  have hearlier : earlier.lookup c.toNat = none := by
    rw [writeTwo, if_neg hnone] at htwo
    split at htwo
    · cases htwo
    · assumption
  have ha : (p / 12600 + 0x81).toUInt8.toNat = p / 12600 + 0x81 := Utf8.toNat_toUInt8 (by omega)
  have hb : (p / 1260 % 10 + 0x30).toUInt8.toNat = p / 1260 % 10 + 0x30 :=
    Utf8.toNat_toUInt8 (by omega)
  have hc : (p / 10 % 126 + 0x81).toUInt8.toNat = p / 10 % 126 + 0x81 := Utf8.toNat_toUInt8 (by omega)
  have hd : (p % 10 + 0x30).toUInt8.toNat = p % 10 + 0x30 := Utf8.toNat_toUInt8 (by omega)
  have hplace : ((p / 12600 * 10 + p / 1260 % 10) * 126 + p / 10 % 126) * 10 + p % 10 = p := by omega
  rw [rereadAs_of_ne hearlier]
  refine isGroup_four (isLead_iff.2 (byte_between (by simp; omega))) ?_
  rw [four?, isDigit_iff.2 (byte_between (by simp; omega)), isLead_iff.2 (byte_between (by simp; omega)),
    isDigit_iff.2 (byte_between (by simp; omega)), ha, hb, hc, hd, Nat.add_sub_cancel,
    Nat.add_sub_cancel, Nat.add_sub_cancel, Nat.add_sub_cancel, hplace, hchar]
  rfl

theorem isCode : IsCode next write rereadAs := by
  refine isCode_of_written fun c bs h => ?_
  unfold write at h
  split at h
  · rename_i hascii
    rw [← Option.some.inj h]
    exact isGroup_ascii_written hascii
  · rcases Option.or_eq_some_iff.1 h with htwo | ⟨hnone, hfour⟩
    · exact isGroup_writeTwo htwo
    · exact isGroup_writeFour hnone hfour

end Gb18030

theorem Gbk.isCode : IsCode Gb18030.next write Gb18030.rereadAs := by
  refine Gb18030.isCode_of_written fun c bs h => ?_
  unfold write at h
  split at h
  · rename_i hascii
    rw [← Option.some.inj h]
    exact Gb18030.isGroup_ascii_written hascii
  · split at h
    · rename_i heuro
      obtain rfl : c = Char.ofNat 0x20AC := by rw [← heuro, Char.ofNat_toNat]
      rw [← Option.some.inj h]
      exact Gb18030.isGroup_euro
    · exact Gb18030.isGroup_writeTwo h

end Recipients.Charset
