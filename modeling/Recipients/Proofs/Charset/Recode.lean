import Recipients.Proofs.Charset.Written

/-
  Conversions. A conversion that ends in the charset where it began does not look at the bytes. It does
  what is said of conversions (`IsConversion`) exactly if the bytes have a text and are what is written
  for it (`recode_converts_iff`). In UTF-8, EUC-KR and the charsets of single bytes a text has one
  spelling (`encode_of_decode`), so there only malformed bytes are passed on.
-/

namespace Recipients.Charset

/-! ## One spelling -/

/-- What is written for a text are the bytes that it was read from. -/
def SpellsOnce (decode : Bytes → Option Text) (encode : Text → Option Bytes) : Prop :=
  ∀ ⦃bs t⦄, decode bs = some t → encode t = some bs

section

variable {next : UInt8 → Bytes → Option (Text × Bytes)} {write : Char → Option Bytes}

theorem encodeBy_cons {c : Char} {t : Text} {used rest : Bytes} (hc : write c = some used)
    (ht : encodeBy write t = some rest) : encodeBy write (c :: t) = some (used ++ rest) := by
  obtain ⟨groups, hgroups, rfl⟩ := Option.map_eq_some_iff.1 ht
  rw [encodeBy, List.mapM_cons, hc, hgroups]
  rfl

/-- A charset that reads one character at a time, each from the bytes that are written for it. -/
theorem spellsOnce_decodeBy
    (hnext : ∀ b r rest t, next b r = some (t, rest) →
      ∃ c used, t = [c] ∧ r = used ++ rest ∧ write c = some (b :: used)) :
    SpellsOnce (decodeBy next) (encodeBy write) := by
  intro bs t h
  fun_induction decodeBy next bs generalizing t with
  | case1 =>
    cases h
    rfl
  | case2 | case4 => cases h
  | case3 b r u rest hread _ ih =>
    obtain ⟨v, hv, rfl⟩ := Option.map_eq_some_iff.1 h
    obtain ⟨c, used, rfl, rfl, hc⟩ := hnext _ _ _ _ hread
    exact encodeBy_cons hc (ih hv)

theorem spellsOnce_single {read : UInt8 → Option Char} {write : Char → Option UInt8}
    (h : ∀ b c, read b = some c → write c = some b) : SpellsOnce (List.mapM read) (List.mapM write) := by
  rw [← funext (decodeBy_single read), ← funext (encodeBy_single write)]
  refine spellsOnce_decodeBy fun b r rest t hnext => ?_
  obtain ⟨c, hc, hpair⟩ := Option.map_eq_some_iff.1 hnext
  cases hpair
  exact ⟨c, [], rfl, rfl, by rw [h b c hc, Option.map_some]⟩

end

theorem ascii_of_low_byte {b : UInt8} (h : b < 128) :
    (Char.ofNat b.toNat).toNat < 128 ∧ (Char.ofNat b.toNat).toNat.toUInt8 = b := by
  have hcode : (Char.ofNat b.toNat).toNat = b.toNat :=
    Utf8.toNat_ofNat (.inl (Nat.lt_trans b.toNat_lt (by decide)))
  refine ⟨?_, Utf8.toUInt8_eq hcode⟩
  rw [hcode]
  exact UInt8.lt_iff_toNat_lt.1 h

/-- A charset whose bytes below 128 are ASCII, and whose other bytes are not. -/
theorem spellsOnce_halves {upper : Nat → Option Char} {place : Char → Option Nat}
    (hupper : ∀ n < 128, ∀ c, upper n = some c → 128 ≤ c.toNat ∧ place c = some n) :
    SpellsOnce
      (List.mapM fun b : UInt8 => if b < 128 then some (Char.ofNat b.toNat) else upper (b.toNat - 128))
      (List.mapM fun c : Char =>
        if c.toNat < 128 then some c.toNat.toUInt8 else (place c).map fun n => (n + 128).toUInt8) := by
  refine spellsOnce_single fun b c h => ?_
  have hb := b.toNat_lt
  split at h
  · rename_i hlow
    obtain ⟨hcode, hback⟩ := ascii_of_low_byte hlow
    rw [← Option.some.inj h, if_pos hcode, hback]
  · rename_i hhigh
    have hhigh : 128 ≤ b.toNat := Nat.le_of_not_lt fun h => hhigh (UInt8.lt_iff_toNat_lt.2 h)
    obtain ⟨hchar, hplace⟩ := hupper _ (by omega) c h
    rw [if_neg (Nat.not_lt.2 hchar), hplace, Option.map_some,
      Utf8.toUInt8_eq (Nat.sub_add_cancel hhigh)]

theorem spellsOnce_upper {ix : Index} (h : ix.isOneToOne = true) :
    SpellsOnce (decodeUpper ix) (encodeUpper ix) := by
  obtain ⟨hsound, hdistinct⟩ := Index.isOneToOne_iff.1 h
  exact spellsOnce_halves fun n _ c hc =>
    ⟨Index.char?_not_ascii hsound hc, Index.head?_places hdistinct hc⟩

theorem spellsOnce_userDefined : SpellsOnce (decode userDefined) (encode userDefined) := by
  show SpellsOnce (fun bs => some (decodeUserDefined bs)) encodeUserDefined
  rw [decodeUserDefined_eq, encodeUserDefined_eq]
  have hupper (n : Nat) (hn : n < 128) (c : Char) (h : some (Char.ofNat (0xF780 + n)) = some c) :
      128 ≤ c.toNat ∧
        (if 0xF780 ≤ c.toNat ∧ c.toNat ≤ 0xF7FF then some (c.toNat - 0xF780) else none) = some n := by
    rw [← Option.some.inj h, Utf8.toNat_ofNat (.inr ⟨by omega, by omega⟩), if_pos (by omega),
      Nat.add_sub_cancel_left]
    exact ⟨by omega, rfl⟩
  exact (spellsOnce_halves hupper :)

/-! ## EUC-KR -/

namespace EucKr

theorem write_of_asciiByte? {a : UInt8} {c : Char} (h : asciiByte? a = some c) : write c = some [a] := by
  unfold asciiByte? at h
  split at h
  · rename_i hlow
    obtain ⟨hcode, hback⟩ := ascii_of_low_byte hlow
    rw [← Option.some.inj h, write, if_pos hcode, hback]
  · cases h

theorem write_of_pair? {a b : UInt8} {t : Text} (h : pair? a b = some t) :
    ∃ c, t = [c] ∧ write c = some [a, b] := by
  unfold pair? at h
  split at h
  · rename_i hrange
    obtain ⟨⟨ha, -⟩, hb, hb'⟩ := hrange
    simp only [UInt8.le_iff_toNat_le, UInt8.reduceToNat] at ha hb hb'
    obtain ⟨c, hc, rfl⟩ := Option.map_eq_some_iff.1 h
    obtain ⟨hsound, hdistinct⟩ := Index.isOneToOne_iff.1 isOneToOne
    have hascii := Index.char?_not_ascii hsound hc
    have hlead : ((a.toNat - 0x81) * 190 + (b.toNat - 0x41)) / 190 + 0x81 = a.toNat := by omega
    have htrail : ((a.toNat - 0x81) * 190 + (b.toNat - 0x41)) % 190 + 0x41 = b.toNat := by omega
    refine ⟨c, rfl, ?_⟩
    rw [write, if_neg (Nat.not_lt.2 hascii), Index.head?_places hdistinct hc, Option.map_some,
      Utf8.toUInt8_eq hlead, Utf8.toUInt8_eq htrail]
  · cases h

theorem spellsOnce : SpellsOnce decode encode := by
  refine spellsOnce_decodeBy fun a r rest t h => ?_
  rw [next_eq] at h
  unfold byPairs at h
  split at h
  · rename_i c hc
    cases h
    exact ⟨c, [], rfl, rfl, write_of_asciiByte? hc⟩
  · cases r with
    | nil => cases h
    | cons b r =>
      obtain ⟨u, hu, hpair⟩ := Option.map_eq_some_iff.1 h
      cases hpair
      obtain ⟨c, rfl, hc⟩ := write_of_pair? hu
      exact ⟨c, [b], rfl, rfl, hc⟩

end EucKr

/-! ## All charsets -/

/-- Charsets in which a text has one spelling. Chinese and Japanese charsets give some characters more
    than one place or read characters that they do not write; UTF-16 is written as UTF-8. -/
def spellsOnce : Charset → Bool
  | gbk | gb18030 | big5 | eucJp | iso2022Jp | shiftJis | utf16be | utf16le => false
  | _ => true

variable {cs source target : Charset} {bs out : Bytes} {t : Text}

theorem encode_of_decode (hcs : cs.spellsOnce = true) (h : cs.decode bs = some t) :
    cs.encode t = some bs := by
  cases hupper : cs.upperHalf? with
  | some ix =>
    have hspells := spellsOnce_upper (isOneToOne_upperHalf hupper)
    cases cs <;> cases hupper <;> exact hspells h
  | none =>
    cases cs with
    | utf8 => exact congrArg some (Utf8.encode_of_decode h).symm
    | eucKr => exact EucKr.spellsOnce h
    | userDefined => exact spellsOnce_userDefined h
    | replacement =>
      rw [decode] at h
      split at h
      · rename_i hempty
        obtain rfl := List.isEmpty_iff.1 hempty
        cases h
        rfl
      · cases h
    | gbk | gb18030 | big5 | eucJp | iso2022Jp | shiftJis | utf16be | utf16le => cases hcs
    | _ => cases hupper

example : utf16le.decode [0x61, 0] = some ['a'] ∧ utf16le.encode ['a'] = some [0x61] := by decide

/-! ## Conversions -/

/-- What is said of conversions: they fail exactly if the bytes are malformed in the one charset or their
    text cannot be represented in the other, and give else what is written for the text. -/
structure IsConversion (source target : Charset) (bs : Bytes) (result : Except CharsetError Bytes) :
    Prop where
  fails_iff : (∃ e, result = .error e) ↔
    source.decode bs = none ∨ ∃ t, source.decode bs = some t ∧ target.encode t = none
  written {out : Bytes} (h : result = .ok out) :
    ∃ t, source.decode bs = some t ∧ target.encode t = some out

theorem recode_self : recode bs cs cs = .ok bs := if_pos rfl

/-- The error names the charset in which something is missing. -/
theorem recode_eq_error_iff (h : source ≠ target) {e : CharsetError} :
    recode bs source target = .error e ↔
      (e = .malformed source ∧ source.decode bs = none) ∨
        (e = .unrepresentable target ∧ ∃ t, source.decode bs = some t ∧ target.encode t = none) := by
  rw [recode, if_neg h, read]
  cases source.decode bs with
  | none => simp [eq_comm]
  | some t =>
    dsimp only
    rw [write]
    cases hout : target.encode t <;> simp [hout, eq_comm]

theorem recode_eq_ok_iff (h : source ≠ target) :
    recode bs source target = .ok out ↔ ∃ t, source.decode bs = some t ∧ target.encode t = some out := by
  rw [recode, if_neg h, read]
  cases source.decode bs with
  | none => simp
  | some t =>
    dsimp only
    rw [write]
    cases hout : target.encode t <;> simp [hout]

theorem isConversion_of_ne (h : source ≠ target) :
    IsConversion source target bs (recode bs source target) where
  fails_iff := by simp only [recode_eq_error_iff h, exists_or, exists_eq_left]
  written := (recode_eq_ok_iff h).1

theorem isConversion_self_iff :
    IsConversion cs cs bs (recode bs cs cs) ↔ ∃ t, cs.decode bs = some t ∧ cs.encode t = some bs := by
  rw [recode_self]
  refine ⟨fun h => h.written rfl, ?_⟩
  rintro ⟨t, ht, hbs⟩
  constructor
  · simp [ht, hbs]
  · rintro _ ⟨⟩
    exact ⟨t, ht, hbs⟩

/-- A recoding is a conversion exactly if the charsets differ or the bytes have a text and are what is
    written for it; where a text has one spelling, they only have to be well formed. -/
theorem recode_converts_iff (bs : Bytes) (source target : Charset) :
    (IsConversion source target bs (recode bs source target) ↔
      source ≠ target ∨ ∃ t, source.decode bs = some t ∧ source.encode t = some bs) ∧
    (source.spellsOnce = true → (IsConversion source target bs (recode bs source target) ↔
      source ≠ target ∨ source.decode bs ≠ none)) := by
  by_cases h : source = target
  · subst h
    simp only [isConversion_self_iff, ne_eq, not_true_eq_false, false_or, true_and]
    intro hspells
    rw [← ne_eq, Option.ne_none_iff_exists']
    exact exists_congr fun t => and_iff_left_of_imp (encode_of_decode hspells)
  · simp [h, isConversion_of_ne h]

theorem recode_converts_iff_utf8 : utf8.spellsOnce = true ∧
    IsConversion utf8 utf8 [0xC3, 0xBC] (recode [0xC3, 0xBC] utf8 utf8) :=
  ⟨rfl, ((recode_converts_iff [0xC3, 0xBC] utf8 utf8).2 rfl).2 (.inr (by decide +kernel))⟩

/-- Malformed bytes are passed on. -/
theorem recode_malformed : utf8.decode [0xFF] = none ∧ recode [0xFF] utf8 utf8 = .ok [0xFF] ∧
    ¬IsConversion utf8 utf8 [0xFF] (recode [0xFF] utf8 utf8) := by
  have hnone : utf8.decode [0xFF] = none := by decide +kernel
  refine ⟨hnone, rfl, fun h => ?_⟩
  obtain ⟨t, ht, -⟩ := h.written rfl
  cases hnone.symm.trans ht

end Recipients.Charset
