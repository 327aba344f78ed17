import Recipients.Proofs.Charset.Pairs

/-
  Shift_JIS and EUC-JP. What was written is read as it was, but for the yen sign, the overline and the
  minus sign, which share their bytes with other characters (`rereadAs`).
-/

namespace Recipients.Charset

/-- The character that is read where `c` was written. -/
def rereadAs (c : Char) : Char :=
  if c = yen then '\\' else if c = overline then '~' else widened c

theorem widened_of_ne {c : Char} (h : c.toNat ≠ 0x2212) : widened c = c := if_neg h

theorem rereadAs_of_ne {c : Char} (hyen : c ≠ yen) (hoverline : c ≠ overline) :
    rereadAs c = widened c := by
  rw [rereadAs, if_neg hyen, if_neg hoverline]

theorem ne_yen {c : Char} (h : c.toNat ≠ 0xA5) : c ≠ yen := by
  rintro rfl
  exact h rfl

theorem ne_overline {c : Char} (h : c.toNat ≠ 0x203E) : c ≠ overline := by
  rintro rfl
  exact h rfl

/-- Only the yen sign, the overline and the minus sign are read as other characters. -/
theorem rereadAs_eq_iff {c : Char} : rereadAs c = c ↔ c ≠ yen ∧ c ≠ overline ∧ c.toNat ≠ 0x2212 := by
  unfold rereadAs widened
  split
  · rename_i hyen
    subst hyen
    decide
  · rename_i hyen
    split
    · rename_i hoverline
      subst hoverline
      decide
    · rename_i hoverline
      split
      · rename_i hminus
        obtain rfl : c = Char.ofNat 0x2212 := by rw [← hminus, Char.ofNat_toNat]
        decide
      · rename_i hminus
        simp [hyen, hoverline, hminus]

theorem sharedByte?_read {c : Char} {b : UInt8} (h : sharedByte? c = some b) :
    b < 0x80 ∧ ascii b = rereadAs c := by
  unfold sharedByte? at h
  split at h
  · rename_i hascii
    rw [← Option.some.inj h, rereadAs_of_ne (ne_yen (by omega)) (ne_overline (by omega)),
      widened_of_ne (by omega)]
    exact low_byte hascii
  · split at h
    · rename_i hyen
      rw [← Option.some.inj h, hyen]
      decide
    · split at h
      · rename_i hoverline
        rw [← Option.some.inj h, hoverline]
        decide
      · cases h

theorem rereadAs_of_sharedByte?_none {c : Char} (h : sharedByte? c = none) :
    0x80 ≤ c.toNat ∧ rereadAs c = widened c := by
  unfold sharedByte? at h
  split at h
  · cases h
  · rename_i hascii
    split at h
    · cases h
    · rename_i hyen
      split at h
      · cases h
      · rename_i hoverline
        exact ⟨Nat.le_of_not_lt hascii, rereadAs_of_ne hyen hoverline⟩

theorem isKatakana_iff {c : Char} : isKatakana c = true ↔ 0xFF61 ≤ c.toNat ∧ c.toNat ≤ 0xFF9F := by
  simp [isKatakana]

theorem rereadAs_of_isKatakana {c : Char} (h : isKatakana c = true) : rereadAs c = c := by
  rw [isKatakana_iff] at h
  rw [rereadAs_of_ne (ne_yen (by omega)) (ne_overline (by omega)), widened_of_ne (by omega)]

/-- The byte of a narrow katakana leads back to it. -/
theorem katakana_of_byte {c : Char} {b : UInt8} (h : isKatakana c = true)
    (hb : b = (c.toNat - 0xFF61 + 0xA1).toUInt8) :
    (0xA1 ≤ b ∧ b ≤ 0xDF) ∧ katakana (b.toNat - 0xA1) = c := by
  rw [isKatakana_iff] at h
  subst hb
  refine ⟨byte_between (by simp; omega), ?_⟩
  rw [Utf8.toNat_toUInt8 (by omega), Nat.add_sub_cancel, katakana, Nat.add_sub_cancel' h.1,
    Char.ofNat_toNat]

theorem katakana_not_feed {b last : UInt8} (h : b ≤ last) (first : Nat)
    (hspan : last.toNat = first + 0x3E) : katakana (b.toNat - first) ≠ '\n' := by
  rw [UInt8.le_iff_toNat_le] at h
  refine not_feed ?_
  rw [katakana, Utf8.toNat_ofNat (.inr ⟨by omega, by omega⟩)]
  omega

theorem isSound_jis0208 : Index.jis0208.isSound = true := Index.isSound_pairs.1

theorem length_jis0208 : Index.jis0208.rows.length * Index.jis0208.width = 120 * 94 := by
  decide +kernel

/-- The two bytes of a place, for its row and for its column, lead back to the place. -/
theorem place_bytes (first last : UInt8) (hspan : last.toNat = first.toNat + 93) {p : Nat}
    (hp : p < 8836) {a b : UInt8} (ha : a = (p / 94 + first.toNat).toUInt8)
    (hb : b = (p % 94 + first.toNat).toUInt8) :
    ((first ≤ a ∧ a ≤ last) ∧ (first ≤ b ∧ b ≤ last)) ∧
      (a.toNat - first.toNat) * 94 + (b.toNat - first.toNat) = p := by
  have := last.toNat_lt
  have hrow : a.toNat = p / 94 + first.toNat := by rw [ha, Utf8.toNat_toUInt8 (by omega)]
  have hcolumn : b.toNat = p % 94 + first.toNat := by rw [hb, Utf8.toNat_toUInt8 (by omega)]
  refine ⟨⟨?_, ?_⟩, by omega⟩
  · rw [ha]
    exact byte_between (by omega)
  · rw [hb]
    exact byte_between (by omega)

theorem char?_of_jisPlace? {c : Char} {p : Nat} (h : (jisPlace? c).filter (· < 8836) = some p) :
    p < 8836 ∧ Index.jis0208.char? p = some (widened c) := by
  obtain ⟨hp, hbound⟩ := Option.filter_eq_some_iff.1 h
  exact ⟨of_decide_eq_true hbound, (Index.char?_of_mem_places isSound_jis0208 (List.mem_of_head? hp)).1⟩

/-! ## Shift_JIS -/

namespace ShiftJis

def single? (a : UInt8) : Option Char :=
  if a ≤ 0x80 then some (ascii a)
  else if 0xA1 ≤ a ∧ a ≤ 0xDF then some (katakana (a.toNat - 0xA1))
  else none

def pairText? (a b : UInt8) : Option Text := (pair? a.toNat b.toNat).map fun c => [c]

theorem next_eq : next = byPairs single? pairText? := by
  funext a r
  unfold next byPairs single? pairText?
  by_cases ha : a ≤ 0x80
  · simp only [if_pos ha]
  · by_cases ha' : 0xA1 ≤ a ∧ a ≤ 0xDF
    · simp only [if_neg ha, if_pos ha']
    · simp only [if_neg ha, if_neg ha', Option.map_map]
      cases r <;> rfl

theorem single?_feed {a : UInt8} {c : Char} (h : single? a = some c) : a = 10 ↔ c = '\n' := by
  unfold single? at h
  split at h
  · rw [← Option.some.inj h]
    exact ofNat_eq_feed a
  · split at h
    · rename_i hrange
      rw [← Option.some.inj h]
      have ha : a ≠ 10 := by grind
      simp [ha, katakana_not_feed hrange.2 0xA1 rfl]
    · cases h

/-- The rows for characters of one's own are empty in the index. -/
theorem empty_rows : ∀ k < 20, Index.jis0208.rows[94 + k]? = some [] := by decide +kernel

theorem private?_of_places {c : Char} {p : Nat} (hp : p ∈ Index.jis0208.places c) :
    private? p = none := by
  have hwidth : Index.jis0208.width = 94 := rfl
  obtain ⟨k, i, row, hrow, hi, rfl⟩ := (Index.mem_places (Index.ne_hole_of_mem_places hp)).1 hp
  rw [hwidth, private?, if_neg]
  have hlength := (Index.row_sound isSound_jis0208 (List.mem_of_getElem? hrow)).1
  have hcolumn := (List.getElem?_eq_some_iff.1 hi).1
  rw [hwidth] at hlength
  rintro ⟨hfrom, hto⟩
  have hempty := empty_rows (k - 94) (by omega)
  rw [Nat.add_sub_cancel' (by omega), hrow] at hempty
  rw [Option.some.inj hempty] at hcolumn
  cases hcolumn

theorem private?_not_ascii {p : Nat} {c : Char} (h : private? p = some c) : 128 ≤ c.toNat := by
  unfold private? at h
  split at h
  · rename_i hrange
    rw [← Option.some.inj h, Utf8.toNat_ofNat (.inr ⟨by omega, by omega⟩)]
    omega
  · cases h

theorem pairText?_feed {a b : UInt8} {t : Text} (h : pairText? a b = some t) :
    b ≠ 10 ∧ ∃ s c, t = s ++ [c] ∧ c ≠ '\n' := by
  obtain ⟨c, hc, rfl⟩ := Option.map_eq_some_iff.1 h
  unfold pair? at hc
  dsimp only at hc
  split at hc
  · rename_i hrange
    refine ⟨by rintro rfl; simp at hrange, [], c, rfl, not_feed ?_⟩
    rcases Option.or_eq_some_iff.1 hc with hprivate | ⟨-, hchar⟩
    · exact private?_not_ascii hprivate
    · exact Index.char?_not_ascii isSound_jis0208 hchar
  · cases hc

/-- The bytes of a place lead back to it. -/
theorem isGroup_place {p : Nat} {c : Char} (hp : p ∈ Index.jis0208.places c) {a b : UInt8}
    (ha : a = (p / 188 + (if p / 188 < 0x1F then 0x81 else 0xC1)).toUInt8)
    (hb : b = (p % 188 + (if p % 188 < 0x3F then 0x40 else 0x41)).toUInt8) :
    IsGroup (byPairs single? pairText?) [a, b] [c] := by
  obtain ⟨hchar, hbound⟩ := Index.char?_of_mem_places isSound_jis0208 hp
  rw [length_jis0208] at hbound
  obtain ⟨hrange, htrail⟩ := trail_byte 0x80 0xFC (p % 188) 0x41 (by omega) rfl (by simp; omega) hb
  have hlead : a.toNat = p / 188 + (if p / 188 < 0x1F then 0x81 else 0xC1) := by
    rw [ha, Utf8.toNat_toUInt8]
    split <;> omega
  have hleads : (0x81 ≤ a.toNat ∧ a.toNat ≤ 0x9F) ∨ (0xE0 ≤ a.toNat ∧ a.toNat ≤ 0xFC) := by
    rw [hlead]
    split <;> omega
  have hrow : a.toNat - (if a.toNat < 0xA0 then 0x81 else 0xC1) = p / 188 := by
    rw [hlead]
    split <;> split <;> omega
  have hsingle : single? a = none := by
    have hhigh : ¬a ≤ 0x80 := by
      rw [UInt8.le_iff_toNat_le]
      simp
      omega
    have hkatakana : ¬(0xA1 ≤ a ∧ a ≤ 0xDF) := by
      rw [UInt8.le_iff_toNat_le, UInt8.le_iff_toNat_le]
      simp
      omega
    rw [single?, if_neg hhigh, if_neg hkatakana]
  refine isGroup_pair hsingle ?_
  simp only [UInt8.lt_iff_toNat_lt, UInt8.le_iff_toNat_le, UInt8.reduceToNat] at hrange htrail
  have hplace : p / 188 * 188 + p % 188 = p := Nat.div_add_mod' p 188
  unfold pairText? pair?
  simp only [hleads, hrange, hrow, htrail, hplace, private?_of_places hp, hchar, Bool.and_eq_true,
    Bool.or_eq_true, decide_eq_true_eq, and_self, if_true, Option.none_or, Option.map_some]

theorem isCode : IsCode next write rereadAs := by
  rw [next_eq]
  refine isCode_byPairs (fun a c => single?_feed) rfl (fun a b t => pairText?_feed) fun c bs h => ?_
  unfold write at h
  split at h
  · rename_i hcode
    obtain rfl : c = Char.ofNat 0x80 := by rw [← hcode, Char.ofNat_toNat]
    rw [← Option.some.inj h]
    exact isGroup_single (by decide)
  · split at h
    · rename_i b hb
      rw [← Option.some.inj h]
      obtain ⟨hlow, hread⟩ := sharedByte?_read hb
      refine isGroup_single ?_
      rw [single?, if_pos (by grind), hread]
    · rename_i hnone
      split at h
      · rename_i hkatakana
        rw [← Option.some.inj h, rereadAs_of_isKatakana hkatakana]
        obtain ⟨hrange, hread⟩ := katakana_of_byte hkatakana rfl
        refine isGroup_single ?_
        rw [single?, if_neg (by grind), if_pos hrange, hread]
      · obtain ⟨p, hp, rfl⟩ := Option.map_eq_some_iff.1 h
        rw [(rereadAs_of_sharedByte?_none hnone).2]
        exact isGroup_place (List.mem_filter.1 (List.mem_of_head? hp)).1 rfl rfl

end ShiftJis

/-! ## EUC-JP -/

namespace EucJp

theorem isSound_jis0212 : Index.jis0212.isSound = true := Index.isSound_pairs.2.1

/-- What can be read at the front: one byte, a narrow katakana after 0x8E, three bytes of JIS X 0212 after
    0x8F, or two bytes of JIS X 0208. -/
theorem next_cases {a : UInt8} {r rest : Bytes} {t : Text} (h : next a r = some (t, rest)) :
    (a < 0x80 ∧ rest = r ∧ t = [ascii a]) ∨
    (¬a < 0x80 ∧ ∃ b, r = b :: rest ∧ a = 0x8E ∧ (0xA1 ≤ b ∧ b ≤ 0xDF) ∧
      t = [katakana (b.toNat - 0xA1)]) ∨
    (¬a < 0x80 ∧ ∃ b c d, r = b :: c :: rest ∧ a = 0x8F ∧ (inRange b && inRange c) = true ∧
      Index.jis0212.char? (place b c) = some d ∧ t = [d]) ∨
    (¬a < 0x80 ∧ ∃ b d, r = b :: rest ∧ a ≠ 0x8E ∧ a ≠ 0x8F ∧ (inRange a && inRange b) = true ∧
      Index.jis0208.char? (place a b) = some d ∧ t = [d]) := by
  unfold next at h
  split at h
  · rename_i ha
    cases h
    exact .inl ⟨ha, rfl, rfl⟩
  · rename_i ha
    refine .inr ?_
    cases r with
    | nil => cases h
    | cons b r =>
      dsimp only at h
      split at h
      · rename_i hkatakana
        split at h
        · rename_i hb
          cases h
          exact .inl ⟨ha, b, rfl, hkatakana, hb, rfl⟩
        · cases h
      · rename_i hkatakana
        split at h
        · rename_i hthree
          cases r with
          | nil => cases h
          | cons c r =>
            dsimp only at h
            split at h
            · rename_i hrange
              obtain ⟨d, hd, hrest⟩ := Option.map_eq_some_iff.1 h
              cases hrest
              exact .inr (.inl ⟨ha, b, c, d, rfl, hthree, hrange, hd, rfl⟩)
            · cases h
        · rename_i hthree
          split at h
          · rename_i hrange
            obtain ⟨d, hd, hrest⟩ := Option.map_eq_some_iff.1 h
            cases hrest
            exact .inr (.inr ⟨ha, b, d, rfl, hkatakana, hthree, hrange, hd, rfl⟩)
          · cases h

theorem isGroup_ascii {a : UInt8} (ha : a < 0x80) : IsGroup next [a] [ascii a] := by
  refine ⟨a, [], rfl, fun more => ?_⟩
  unfold next
  exact if_pos ha

theorem isGroup_katakana {b : UInt8} (hb : 0xA1 ≤ b ∧ b ≤ 0xDF) :
    IsGroup next [0x8E, b] [katakana (b.toNat - 0xA1)] := by
  refine ⟨0x8E, [b], rfl, fun more => ?_⟩
  unfold next
  exact if_pos hb

theorem isGroup_triple {b c : UInt8} {d : Char} (hrange : (inRange b && inRange c) = true)
    (hd : Index.jis0212.char? (place b c) = some d) : IsGroup next [0x8F, b, c] [d] := by
  refine ⟨0x8F, [b, c], rfl, fun more => ?_⟩
  unfold next
  refine (if_pos hrange).trans ?_
  rw [hd]
  rfl

theorem isGroup_pair {a b : UInt8} {d : Char} (hrange : (inRange a && inRange b) = true)
    (hd : Index.jis0208.char? (place a b) = some d) : IsGroup next [a, b] [d] := by
  refine ⟨a, [b], rfl, fun more => ?_⟩
  have ha : inRange a = true := (Bool.and_eq_true_iff.1 hrange).1
  have hlow : ¬a < 0x80 := by
    unfold inRange at ha
    grind
  have hkatakana : a ≠ 0x8E := by
    rintro rfl
    cases ha
  have hthree : a ≠ 0x8F := by
    rintro rfl
    cases ha
  simp only [next, if_neg hlow, List.cons_append, if_neg hkatakana, if_neg hthree, hrange, hd, if_true,
    Option.map_some, List.nil_append]

/-- The last byte of a longer group is no line feed, as its character is none. -/
theorem endsAlike_last (bs : Bytes) {b : UInt8} {c : Char} (hb : 0xA1 ≤ b) (hc : c ≠ '\n') :
    EndsAlike (bs ++ [b]) [c] := by
  have hten : b ≠ 10 := by
    rintro rfl
    revert hb
    decide
  refine ⟨List.cons_ne_nil _ _, ?_⟩
  simp [hten, hc]

theorem low_of_inRange {b : UInt8} (h : inRange b = true) : 0xA1 ≤ b := by
  unfold inRange at h
  grind

theorem isCode : IsCode next write rereadAs where
  front := by
    intro a r rest t h
    rcases next_cases h with ⟨ha, rfl, rfl⟩ | ⟨-, b, rfl, rfl, hb, rfl⟩ |
      ⟨-, b, c, d, rfl, rfl, hrange, hd, rfl⟩ | ⟨-, b, d, rfl, -, -, hrange, hd, rfl⟩
    · refine ⟨[], rfl, isGroup_ascii ha, List.cons_ne_nil _ _, ?_⟩
      simpa [ascii] using ofNat_eq_feed a
    · exact ⟨[b], rfl, isGroup_katakana hb,
        endsAlike_last [0x8E] hb.1 (katakana_not_feed hb.2 0xA1 rfl)⟩
    · have hc := low_of_inRange (Bool.and_eq_true_iff.1 hrange).2
      exact ⟨[b, c], rfl, isGroup_triple hrange hd,
        endsAlike_last [0x8F, b] hc (not_feed (Index.char?_not_ascii isSound_jis0212 hd))⟩
    · have hb := low_of_inRange (Bool.and_eq_true_iff.1 hrange).2
      exact ⟨[b], rfl, isGroup_pair hrange hd,
        endsAlike_last [a] hb (not_feed (Index.char?_not_ascii isSound_jis0208 hd))⟩
  feed r := rfl
  written := by
    intro c bs h
    unfold write at h
    split at h
    · rename_i b hb
      rw [← Option.some.inj h]
      obtain ⟨hlow, hread⟩ := sharedByte?_read hb
      rw [← hread]
      exact isGroup_ascii hlow
    · rename_i hnone
      split at h
      · rename_i hkatakana
        rw [← Option.some.inj h, rereadAs_of_isKatakana hkatakana]
        obtain ⟨hrange, hread⟩ := katakana_of_byte hkatakana rfl
        have hgroup := isGroup_katakana hrange
        rwa [hread] at hgroup
      · obtain ⟨p, hp, rfl⟩ := Option.map_eq_some_iff.1 h
        obtain ⟨hbound, hchar⟩ := char?_of_jisPlace? hp
        obtain ⟨hrange, hplace⟩ := place_bytes 0xA1 0xFE rfl hbound rfl rfl
        rw [(rereadAs_of_sharedByte?_none hnone).2]
        exact isGroup_pair (by simpa [inRange] using hrange)
          ((congrArg Index.jis0208.char? hplace).trans hchar)

end EucJp

end Recipients.Charset
