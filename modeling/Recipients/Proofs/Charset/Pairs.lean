import Recipients.Proofs.Charset.Coding
import Recipients.Proofs.Charset.Index

/-
  EUC-KR and Big5. A byte is a character or makes one with the byte after it (`byPairs`), and what was
  written is read as it was.
-/

namespace Recipients.Charset

/-! ## Bytes -/

theorem ofNat_eq_feed (a : UInt8) : a = 10 ↔ Char.ofNat a.toNat = '\n' := by
  have ha := a.toNat_lt
  constructor
  · rintro rfl
    rfl
  · intro h
    have hcode := congrArg Char.toNat h
    rw [Utf8.toNat_ofNat (.inl (by omega))] at hcode
    exact UInt8.toNat_inj.1 hcode

theorem not_feed {c : Char} (h : 128 ≤ c.toNat) : c ≠ '\n' := by
  rintro rfl
  exact absurd h (by decide)

theorem low_byte {c : Char} (h : c.toNat < 128) :
    c.toNat.toUInt8 < 128 ∧ Char.ofNat c.toNat.toUInt8.toNat = c := by
  have hbyte : c.toNat.toUInt8.toNat = c.toNat := Utf8.toNat_toUInt8 (by omega)
  rw [UInt8.lt_iff_toNat_lt, hbyte, Char.ofNat_toNat]
  exact ⟨h, rfl⟩

theorem byte_between {lo hi : UInt8} {n : Nat} (h : lo.toNat ≤ n ∧ n ≤ hi.toNat) :
    lo ≤ n.toUInt8 ∧ n.toUInt8 ≤ hi := by
  have hhi := hi.toNat_lt
  rw [UInt8.le_iff_toNat_le, UInt8.le_iff_toNat_le, Utf8.toNat_toUInt8 (by omega)]
  exact h

/-- Trail bytes leave out 0x7F, and what lies below `lo` after it. -/
theorem trail_byte (lo hi : UInt8) (trail off : Nat) {b : UInt8} (hoff : 0x40 ≤ off)
    (hlo : lo.toNat = 0x3F + off) (hhi : trail + off ≤ hi.toNat)
    (hb : b = (trail + (if trail < 0x3F then 0x40 else off)).toUInt8) :
    ((0x40 ≤ b ∧ b ≤ 0x7E) ∨ (lo ≤ b ∧ b ≤ hi)) ∧
      b.toNat - (if b < 0x7F then 0x40 else off) = trail := by
  have := hi.toNat_lt
  subst hb
  by_cases htrail : trail < 0x3F
  · have hb : (trail + 0x40).toUInt8.toNat = trail + 0x40 := Utf8.toNat_toUInt8 (by omega)
    have hlow : (trail + 0x40).toUInt8 < 0x7F :=
      UInt8.lt_iff_toNat_lt.2 (by rw [hb]; exact Nat.add_lt_add_right htrail 0x40)
    rw [if_pos htrail, if_pos hlow, hb, Nat.add_sub_cancel]
    exact ⟨.inl (byte_between ⟨Nat.le_add_left _ _, Nat.add_le_add_right (Nat.le_pred_of_lt htrail) _⟩),
      rfl⟩
  · have hb : (trail + off).toUInt8.toNat = trail + off := Utf8.toNat_toUInt8 (by omega)
    have hhigh : ¬(trail + off).toUInt8 < 0x7F := by
      rw [UInt8.lt_iff_toNat_lt, hb]
      show ¬trail + off < 0x7F
      omega
    rw [if_neg htrail, if_neg hhigh, hb, Nat.add_sub_cancel]
    exact ⟨.inr (byte_between ⟨by omega, hhi⟩), rfl⟩

theorem mem_of_lookup {α β : Type} [BEq α] [LawfulBEq α] {l : List (α × β)} {a : α} {b : β}
    (h : l.lookup a = some b) : (a, b) ∈ l := by
  obtain ⟨l₁, l₂, rfl, -⟩ := List.lookup_eq_some_iff.1 h
  exact List.mem_append_right _ List.mem_cons_self

/-! ## Pairs -/

/-- Reads a byte that is a character, or else one that makes a character with the byte after it. -/
def byPairs (single : UInt8 → Option Char) (pair : UInt8 → UInt8 → Option Text) (a : UInt8) (r : Bytes) :
    Option (Text × Bytes) :=
  match single a with
  | some c => some ([c], r)
  | none =>
    match r with
    | [] => none
    | b :: r => (pair a b).map fun t => (t, r)

section

variable {single : UInt8 → Option Char} {pair : UInt8 → UInt8 → Option Text}
  {write : Char → Option Bytes} {readAs : Char → Char}

theorem isGroup_single {a : UInt8} {c : Char} (h : single a = some c) :
    IsGroup (byPairs single pair) [a] [c] := by
  refine ⟨a, [], rfl, fun more => ?_⟩
  simp only [byPairs, h, List.nil_append]

theorem isGroup_pair {a b : UInt8} {t : Text} (ha : single a = none) (h : pair a b = some t) :
    IsGroup (byPairs single pair) [a, b] t := by
  refine ⟨a, [b], rfl, fun more => ?_⟩
  simp only [byPairs, ha, List.cons_append, List.nil_append, h, Option.map_some]

/-- Of single bytes only that of a line feed is read as one, and no pair ends in that byte or is read as
    a text that ends with a line feed. -/
theorem isCode_byPairs
    (hsingle : ∀ a c, single a = some c → (a = 10 ↔ c = '\n'))
    (hfeed : single 10 = some '\n')
    (hpair : ∀ a b t, pair a b = some t → b ≠ 10 ∧ ∃ s c, t = s ++ [c] ∧ c ≠ '\n')
    (hwritten : ∀ c bs, write c = some bs → IsGroup (byPairs single pair) bs [readAs c]) :
    IsCode (byPairs single pair) write readAs where
  front := by
    intro a r rest t h
    unfold byPairs at h
    split at h
    · rename_i c hc
      cases h
      refine ⟨[], rfl, isGroup_single hc, List.cons_ne_nil _ _, ?_⟩
      simpa using hsingle a c hc
    · rename_i ha
      split at h
      · cases h
      · rename_i b r
        obtain ⟨t, ht, hrest⟩ := Option.map_eq_some_iff.1 h
        cases hrest
        obtain ⟨hb, s, c, rfl, hc⟩ := hpair a b t ht
        refine ⟨[b], rfl, isGroup_pair ha ht, by simp, ?_⟩
        simp [hb, hc]
  feed r := by simp only [byPairs, hfeed]
  written h := hwritten _ _ h

end

/-- The single bytes of EUC-KR and Big5 are those of ASCII. -/
def asciiByte? (a : UInt8) : Option Char := if a < 0x80 then some (Char.ofNat a.toNat) else none

theorem asciiByte?_feed {a : UInt8} {c : Char} (h : asciiByte? a = some c) : a = 10 ↔ c = '\n' := by
  unfold asciiByte? at h
  split at h
  · rw [← Option.some.inj h]
    exact ofNat_eq_feed a
  · cases h

theorem asciiByte?_toNat {c : Char} (h : c.toNat < 0x80) : asciiByte? c.toNat.toUInt8 = some c := by
  obtain ⟨hlow, hchar⟩ := low_byte h
  rw [asciiByte?, if_pos hlow, hchar]

theorem asciiByte?_lead {n : Nat} (h : 0x80 ≤ n ∧ n < 256) : asciiByte? n.toUInt8 = none := by
  have hbyte : n.toUInt8.toNat = n := Utf8.toNat_toUInt8 h.2
  rw [asciiByte?, if_neg]
  rw [UInt8.lt_iff_toNat_lt, hbyte]
  exact Nat.not_lt.2 h.1

/-! ## EUC-KR -/

namespace EucKr

def pair? (a b : UInt8) : Option Text :=
  if (0x81 ≤ a ∧ a ≤ 0xFE) ∧ 0x41 ≤ b ∧ b ≤ 0xFE then
    (Index.ksX1001.char? ((a.toNat - 0x81) * 190 + (b.toNat - 0x41))).map fun c => [c]
  else none

theorem next_eq : next = byPairs asciiByte? pair? := by
  funext a r
  unfold next byPairs asciiByte? pair?
  by_cases ha : a < 0x80
  · simp only [if_pos ha]
  · cases r with
    | nil => simp [ha]
    | cons b r =>
      by_cases ha' : 0x81 ≤ a ∧ a ≤ 0xFE <;> by_cases hb : 0x41 ≤ b ∧ b ≤ 0xFE <;>
        simp [ha, ha', hb, Function.comp_def]

theorem isOneToOne : Index.ksX1001.isOneToOne = true := Index.isSound_pairs.2.2.2

theorem isSound : Index.ksX1001.isSound = true := (Index.isOneToOne_iff.1 isOneToOne).1

theorem length_eq : Index.ksX1001.rows.length * Index.ksX1001.width = 125 * 190 := by decide +kernel

theorem isCode : IsCode next write id := by
  rw [next_eq]
  refine isCode_byPairs (fun a c => asciiByte?_feed) rfl (fun a b t h => ?_) fun c bs h => ?_
  · unfold pair? at h
    split at h
    · rename_i hrange
      obtain ⟨c, hc, rfl⟩ := Option.map_eq_some_iff.1 h
      exact ⟨by grind, [], c, rfl, not_feed (Index.char?_not_ascii isSound hc)⟩
    · cases h
  · unfold write at h
    split at h
    · rename_i hascii
      rw [← Option.some.inj h]
      exact isGroup_single (asciiByte?_toNat hascii)
    · obtain ⟨p, hp, rfl⟩ := Option.map_eq_some_iff.1 h
      obtain ⟨hchar, hbound⟩ := Index.char?_of_mem_places isSound (List.mem_of_head? hp)
      rw [length_eq] at hbound
      have ha : (p / 190 + 0x81).toUInt8.toNat = p / 190 + 0x81 := Utf8.toNat_toUInt8 (by omega)
      have hb : (p % 190 + 0x41).toUInt8.toNat = p % 190 + 0x41 := Utf8.toNat_toUInt8 (by omega)
      refine isGroup_pair (asciiByte?_lead (by omega)) ?_
      rw [pair?, if_pos ⟨byte_between (by simp; omega), byte_between (by simp; omega)⟩, ha, hb,
        Nat.add_sub_cancel, Nat.add_sub_cancel, Nat.div_add_mod', hchar]
      rfl

end EucKr

/-! ## Big5 -/

namespace Big5

def pair? (a b : UInt8) : Option Text :=
  if (0x81 ≤ a ∧ a ≤ 0xFE) ∧ ((0x40 ≤ b ∧ b ≤ 0x7E) ∨ (0xA1 ≤ b ∧ b ≤ 0xFE)) then
    textAt? ((a.toNat - 0x81) * 157 + (b.toNat - (if b < 0x7F then 0x40 else 0x62)))
  else none

theorem next_eq : next = byPairs asciiByte? pair? := by
  funext a r
  unfold next byPairs asciiByte? pair?
  by_cases ha : a < 0x80
  · simp only [if_pos ha]
  · cases r with
    | nil => simp [ha]
    | cons b r =>
      by_cases ha' : 0x81 ≤ a ∧ a ≤ 0xFE <;>
        by_cases hb : (0x40 ≤ b ∧ b ≤ 0x7E) ∨ (0xA1 ≤ b ∧ b ≤ 0xFE) <;>
        simp [ha, ha', hb]

theorem isSound : Index.big5.isSound = true := Index.isSound_pairs.2.2.1

theorem length_eq : Index.big5.rows.length * Index.big5.width = 126 * 157 := by decide +kernel

/-- Also where two characters are read, the last one is not a line feed. -/
theorem textAt?_feed {p : Nat} {t : Text} (h : textAt? p = some t) :
    ∃ s c, t = s ++ [c] ∧ c ≠ '\n' := by
  unfold textAt? at h
  split at h
  · rename_i u hu
    rw [← Option.some.inj h]
    have hdoubled : ∀ d ∈ doubled, ∃ s c, d.2 = s ++ [c] ∧ c ≠ '\n' := by
      simp only [doubled, List.forall_mem_cons]
      exact ⟨⟨[_], _, rfl, by decide⟩, ⟨[_], _, rfl, by decide⟩, ⟨[_], _, rfl, by decide⟩,
        ⟨[_], _, rfl, by decide⟩, nofun⟩
    exact hdoubled (p, u) (mem_of_lookup hu)
  · obtain ⟨c, hc, rfl⟩ := Option.map_eq_some_iff.1 h
    exact ⟨[], c, rfl, not_feed (Index.char?_not_ascii isSound hc)⟩

/-- Characters are not written as places that stand for two. -/
theorem textAt?_of_place? {c : Char} {p : Nat} (h : place? c = some p) :
    textAt? p = some [c] ∧ p < 126 * 157 := by
  have hmem : p ∈ (Index.big5.places c).filter (5024 ≤ ·) := by
    unfold place? at h
    split at h
    · exact List.mem_of_getLast? h
    · exact List.mem_of_head? h
  obtain ⟨hp, hstandard⟩ := List.mem_filter.1 hmem
  obtain ⟨hchar, hbound⟩ := Index.char?_of_mem_places isSound hp
  have hsingle : doubled.lookup p = none := by
    rw [List.lookup_eq_none_iff]
    have hbelow : ∀ d ∈ doubled, d.1 < 5024 := by decide
    intro d hd
    have := hbelow d hd
    simp at hstandard ⊢
    omega
  rw [length_eq] at hbound
  rw [textAt?, hsingle, hchar]
  exact ⟨rfl, hbound⟩

theorem isCode : IsCode next write id := by
  rw [next_eq]
  refine isCode_byPairs (fun a c => asciiByte?_feed) rfl (fun a b t h => ?_) fun c bs h => ?_
  · unfold pair? at h
    split at h
    · exact ⟨by grind, textAt?_feed h⟩
    · cases h
  · unfold write at h
    split at h
    · rename_i hascii
      rw [← Option.some.inj h]
      exact isGroup_single (asciiByte?_toNat hascii)
    · obtain ⟨p, hp, rfl⟩ := Option.map_eq_some_iff.1 h
      obtain ⟨htext, hbound⟩ := textAt?_of_place? hp
      have ha : (p / 157 + 0x81).toUInt8.toNat = p / 157 + 0x81 := Utf8.toNat_toUInt8 (by omega)
      obtain ⟨hrange, htrail⟩ := trail_byte 0xA1 0xFE (p % 157) 0x62 (by omega) rfl (by simp; omega) rfl
      refine isGroup_pair (asciiByte?_lead (by omega)) ?_
      rw [pair?, if_pos ⟨byte_between (by simp; omega), hrange⟩, ha, htrail, Nat.add_sub_cancel,
        Nat.div_add_mod', htext]
      rfl

end Big5

end Recipients.Charset
