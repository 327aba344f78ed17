import Recipients.Charset
import Recipients.Proofs.Charset.Chinese
import Recipients.Proofs.Charset.Iso2022Jp

/-
  What each charset reads where a text was written. All charsets but ISO-2022-JP read a text as the texts
  of its parts (`joins`), unless they are only read: UTF-16 reads two bytes of ASCII as one character
  (`Utf16.decode_ascii`), and the replacement has no text but the empty one.
-/

namespace Recipients.Charset

/-- Charsets that are only read. What is written for them is UTF-8. -/
def isOnlyRead (cs : Charset) : Bool := cs = replacement || cs = utf16be || cs = utf16le

/-- The character that is read where `c` was written. -/
def readAs : Charset → Char → Char
  | gbk, c | gb18030, c => Gb18030.rereadAs c
  | eucJp, c | shiftJis, c => rereadAs c
  | iso2022Jp, c => Iso2022Jp.rereadAs c
  | _, c => c

/-- Whether a character is read as it is written. Japanese charsets have a byte for the yen sign and the
    backslash, and one for the overline and the tilde; the minus sign and, in ISO-2022-JP, the narrow
    katakana are written as wide characters; and the bytes of some private characters have been given to
    others in a later edition of GB 18030. -/
def keeps : Charset → Char → Bool
  | gbk, c | gb18030, c => (Gb18030.earlier.lookup c.toNat).isNone
  | eucJp, c | shiftJis, c => c != yen && c != overline && c.toNat != 0x2212
  | iso2022Jp, c => !isKatakana c && c.toNat != 0x2212
  | _, _ => true

theorem readAs_eq_iff {cs : Charset} {c : Char} : cs.readAs c = c ↔ cs.keeps c = true := by
  cases cs with
  | gbk | gb18030 => exact Gb18030.rereadAs_eq_iff.trans Option.isNone_iff_eq_none.symm
  | eucJp | shiftJis => simp [readAs, keeps, rereadAs_eq_iff, and_assoc]
  | iso2022Jp => simp [readAs, keeps, Iso2022Jp.rereadAs_eq_iff]
  | _ => simp [readAs, keeps]

theorem keeps_feed (cs : Charset) : cs.keeps '\n' = true := by cases cs <;> decide

/-! ## Single bytes -/

theorem high_byte {n : Nat} (h : n < 128) :
    ¬(n + 128).toUInt8 < 128 ∧ (n + 128).toUInt8.toNat - 128 = n := by
  have hbyte : (n + 128).toUInt8.toNat = n + 128 := Utf8.toNat_toUInt8 (by omega)
  rw [UInt8.lt_iff_toNat_lt, hbyte]
  exact ⟨Nat.not_lt.2 (Nat.le_add_left 128 n), Nat.add_sub_cancel n 128⟩

/-- A charset whose bytes below 128 are ASCII, and whose other bytes are not. -/
theorem joins_halves {upper : Nat → Option Char} {place : Char → Option Nat}
    (hupper : ∀ n < 128, ∀ c, upper n = some c → 128 ≤ c.toNat)
    (hplace : ∀ c n, place c = some n → n < 128 ∧ upper n = some c) :
    Joins
      (List.mapM fun b : UInt8 => if b < 128 then some (Char.ofNat b.toNat) else upper (b.toNat - 128))
      (List.mapM fun c : Char =>
        if c.toNat < 128 then some c.toNat.toUInt8 else (place c).map fun n => (n + 128).toUInt8)
      id := by
  refine joins_single (fun b c h => ?_) rfl fun c b h => ?_
  · split at h
    · rw [← Option.some.inj h]
      exact ofNat_eq_feed b
    · rename_i hhigh
      have hb : b ≠ 10 := by
        rintro rfl
        exact hhigh (by decide)
      have := b.toNat_lt
      simp [hb, not_feed (hupper _ (by omega) _ h)]
  · split at h
    · rename_i hascii
      obtain ⟨hlow, hchar⟩ := low_byte hascii
      rw [← Option.some.inj h, if_pos hlow, hchar]
    · obtain ⟨n, hn, rfl⟩ := Option.map_eq_some_iff.1 h
      obtain ⟨hbound, hchar⟩ := hplace c n hn
      obtain ⟨hhigh, hback⟩ := high_byte hbound
      rw [if_neg hhigh, hback, hchar]

theorem joins_upper {ix : Index} (hsound : ix.isSound = true)
    (hlength : ix.rows.length * ix.width = 128) : Joins (decodeUpper ix) (encodeUpper ix) id := by
  have hplace (c : Char) (n : Nat) (h : (ix.places c).head? = some n) :
      n < 128 ∧ ix.char? n = some c := by
    obtain ⟨hchar, hbound⟩ := Index.char?_of_mem_places hsound (List.mem_of_head? h)
    exact ⟨hlength ▸ hbound, hchar⟩
  exact joins_halves (fun n _ c => Index.char?_not_ascii hsound) hplace

theorem length_upperHalf {cs : Charset} {ix : Index} (h : cs.upperHalf? = some ix) :
    ix.rows.length * ix.width = 128 := by
  cases cs <;> cases h <;> rfl

theorem decodeUserDefined_eq : (fun bs => some (decodeUserDefined bs)) = List.mapM fun b : UInt8 =>
    if b < 128 then some (Char.ofNat b.toNat) else some (Char.ofNat (0xF780 + (b.toNat - 128))) := by
  funext bs
  have hsome : (fun b : UInt8 => if b < 128 then some (Char.ofNat b.toNat)
      else some (Char.ofNat (0xF780 + (b.toNat - 128)))) = fun b => pure (if b < 128
        then Char.ofNat b.toNat else Char.ofNat (0xF780 + (b.toNat - 128))) :=
    funext fun b => (apply_ite some _ _ _).symm
  rw [hsome, List.mapM_pure]
  rfl

theorem encodeUserDefined_eq : encodeUserDefined = List.mapM fun c : Char =>
    if c.toNat < 128 then some c.toNat.toUInt8
    else (if 0xF780 ≤ c.toNat ∧ c.toNat ≤ 0xF7FF then some (c.toNat - 0xF780) else none).map
      fun n => (n + 128).toUInt8 := by
  funext t
  refine congrArg (List.mapM · t) (funext fun c => ?_)
  rw [apply_ite (Option.map _)]
  rfl

theorem joins_userDefined : Joins (decode userDefined) (encode userDefined) id := by
  show Joins (fun bs => some (decodeUserDefined bs)) encodeUserDefined id
  rw [decodeUserDefined_eq, encodeUserDefined_eq]
  have hupper (n : Nat) (hn : n < 128) (c : Char) (h : some (Char.ofNat (0xF780 + n)) = some c) :
      128 ≤ c.toNat := by
    rw [← Option.some.inj h, Utf8.toNat_ofNat (.inr ⟨by omega, by omega⟩)]
    omega
  have hplace (c : Char) (n : Nat)
      (h : (if 0xF780 ≤ c.toNat ∧ c.toNat ≤ 0xF7FF then some (c.toNat - 0xF780) else none) = some n) :
      n < 128 ∧ some (Char.ofNat (0xF780 + n)) = some c := by
    split at h
    · rename_i hprivate
      rw [← Option.some.inj h, Nat.add_sub_cancel' hprivate.1, Char.ofNat_toNat]
      exact ⟨by omega, rfl⟩
    · cases h
  exact (joins_halves hupper hplace :)

/-! ## All charsets -/

theorem joins {cs : Charset} (hwritten : cs.isOnlyRead = false) (hswitch : cs ≠ iso2022Jp) :
    Joins cs.decode cs.encode cs.readAs := by
  cases hupper : cs.upperHalf? with
  | some ix =>
    have hsound := (Index.isOneToOne_iff.1 (isOneToOne_upperHalf hupper)).1
    have hjoins := joins_upper hsound (length_upperHalf hupper)
    cases cs <;> cases hupper <;> exact hjoins
  | none =>
    cases cs with
    | utf8 => exact joins_utf8
    | gbk => exact Gbk.isCode.joins
    | gb18030 => exact Gb18030.isCode.joins
    | big5 => exact Big5.isCode.joins
    | eucJp => exact EucJp.isCode.joins
    | shiftJis => exact ShiftJis.isCode.joins
    | eucKr => exact EucKr.isCode.joins
    | userDefined => exact joins_userDefined
    | iso2022Jp => exact absurd rfl hswitch
    | replacement | utf16be | utf16le => cases hwritten
    | _ => cases hupper

/-! ## UTF-16 -/

namespace Utf16

theorem ofUnits_cons {n : Nat} (hlow : isLow n = false) (hhigh : isHigh n = false) (r : List Nat) :
    ofUnits (n :: r) = (ofUnits r).map (Char.ofNat n :: ·) := by
  cases r <;> simp [ofUnits, hlow, hhigh]

theorem ofUnits_append {us : List Nat} {t : Text} (h : ofUnits us = some t) (more : List Nat) :
    ofUnits (us ++ more) = (ofUnits more).map (t ++ ·) := by
  fun_induction ofUnits us generalizing t with
  | case1 =>
    cases h
    simp
  | case2 | case3 | case5 => cases h
  | case4 n hlow hhigh m r hpair ih =>
    obtain ⟨s, hs, rfl⟩ := Option.map_eq_some_iff.1 h
    simp only [List.cons_append, ofUnits, hlow, hhigh, hpair, ih hs, if_true, Option.map_map]
    rfl
  | case6 n r hlow hhigh ih =>
    obtain ⟨s, hs, rfl⟩ := Option.map_eq_some_iff.1 h
    rw [Bool.not_eq_true] at hlow hhigh
    rw [List.cons_append, ofUnits_cons hlow hhigh, ih hs, Option.map_map]
    rfl

theorem units_append {bigEndian : Bool} {bs : Bytes} {us : List Nat}
    (h : units bigEndian bs = some us) (more : Bytes) :
    units bigEndian (bs ++ more) = (units bigEndian more).map (us ++ ·) := by
  fun_induction units bigEndian bs generalizing us with
  | case1 =>
    cases h
    simp
  | case2 => cases h
  | case3 a b r unit =>
    rename_i ih
    obtain ⟨vs, hvs, rfl⟩ := Option.map_eq_some_iff.1 h
    simp only [List.cons_append, units, ih hvs, Option.map_map]
    rfl

variable {bigEndian : Bool}

theorem decode_append {bs : Bytes} {t : Text} (h : decode bigEndian bs = some t) (more : Bytes) :
    decode bigEndian (bs ++ more) = (decode bigEndian more).map (t ++ ·) := by
  obtain ⟨us, hus, ht⟩ := Option.bind_eq_some_iff.1 h
  unfold decode
  rw [units_append hus]
  cases units bigEndian more with
  | none => rfl
  | some vs => exact ofUnits_append ht vs

/-- Two bytes of ASCII are read as one character, which is not in ASCII. -/
theorem decode_ascii {a b : UInt8} (ha : 0 < a ∧ a < 128) (hb : 0 < b ∧ b < 128) {r : Bytes} {t : Text}
    (h : decode bigEndian (a :: b :: r) = some t) : ∃ c s, t = c :: s ∧ 128 ≤ c.toNat := by
  obtain ⟨us, hus, ht⟩ := Option.bind_eq_some_iff.1 h
  obtain ⟨vs, -, rfl⟩ := Option.map_eq_some_iff.1 hus
  simp only [UInt8.lt_iff_toNat_lt, UInt8.reduceToNat] at ha hb
  generalize hunit : (if bigEndian then a.toNat * 256 + b.toNat else b.toNat * 256 + a.toNat) = n at ht
  have hn : 256 ≤ n ∧ n < 0x8000 := by
    rw [← hunit]
    split <;> omega
  have hplain : isLow n = false ∧ isHigh n = false := by
    simp [isLow, isHigh]
    omega
  rw [ofUnits_cons hplain.1 hplain.2] at ht
  obtain ⟨s, -, rfl⟩ := Option.map_eq_some_iff.1 ht
  refine ⟨_, s, rfl, ?_⟩
  rw [Utf8.toNat_ofNat (.inl (by omega))]
  omega

end Utf16

end Recipients.Charset
