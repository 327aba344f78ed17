import Mathlib.Data.List.Chain
import Recipients.Proofs.Charset.Pairs

/-
  GB 18030 and GBK. Every character has two bytes or four, and what was written is read as it was, but for
  some private characters whose two bytes have been given to others (`rereadAs`). The four bytes count the
  characters that the index leaves out, in stretches; that it leaves out no other character is looked up in
  the tables (`isComplete`).
-/

namespace Recipients.Charset
namespace Gb18030

/-! ## Sets of characters as numbers -/

theorem testBit_shift_one {m n : Nat} : (1 <<< m).testBit n = true ↔ m = n := by
  rw [Nat.testBit_shiftLeft, Bool.and_eq_true, decide_eq_true_eq,
    Nat.testBit_one_eq_true_iff_self_eq_zero]
  omega

/-- The number whose bits are the codes of the characters. -/
def bits (t : Text) : Nat := t.foldr (fun c m => m ||| 1 <<< c.toNat) 0

theorem testBit_bits {t : Text} {n : Nat} : (bits t).testBit n = true ↔ ∃ c ∈ t, c.toNat = n := by
  induction t with
  | nil => simp [bits]
  | cons c t ih =>
    rw [bits, List.foldr_cons, Nat.testBit_or, Bool.or_eq_true, testBit_shift_one, ← bits, ih]
    simp [or_comm]

/-- The number whose bits from `lo` up to `hi` are set. -/
def stretchBits (lo hi : Nat) : Nat := (1 <<< (hi - lo) - 1) <<< lo

theorem testBit_stretchBits {lo hi n : Nat} :
    (stretchBits lo hi).testBit n = true ↔ lo ≤ n ∧ n < hi := by
  rw [stretchBits, Nat.one_shiftLeft, Nat.testBit_shiftLeft, Nat.testBit_two_pow_sub_one,
    Bool.and_eq_true, decide_eq_true_eq, decide_eq_true_eq]
  omega

/-! ## The tables -/

/-- Stretches of codes that have no four bytes: those between two stretches that do, and the code that
    would have had the place out of sequence. -/
def gaps : List (Nat × Nat) :=
  (0x1E3F, 0x1E40) :: (stretches.zip stretches.tail).map fun (s, s') => (s.2 + (s'.1 - s.1), s'.2)

/-- The codes of the index, and those that are seen to before the stretches are looked at. -/
def seenTo (rows : List Text) : Nat :=
  (rows.foldr (fun row m => bits row ||| m) 0) ||| stretchBits 0xD800 0xE000 ||| 1 <<< 0xE5E5 |||
    1 <<< outOfSequence.2 ||| bits (earlier.map fun e => Char.ofNat e.1)

/-- Whether no code of a gap is missing. -/
def fillsGaps (found : Nat) : Bool :=
  gaps.all fun g => Nat.beq (stretchBits g.1 g.2 &&& found) (stretchBits g.1 g.2)

def twoPlace (a b : UInt8) : Nat :=
  (a.toNat - 0x81) * 190 + (b.toNat - (if b < 0x7F then 0x40 else 0x41))

/-- Whether the index and the characters in four bytes make up all characters, and whether the two bytes
    of an earlier edition are read as other characters. -/
def isComplete (ix : Index) : Bool :=
  ix.isSound && fillsGaps (seenTo ix.rows) &&
    earlier.all fun e => (ix.char? (twoPlace e.2.1 e.2.2)).any fun c => !c.toNat.beq e.1

set_option maxRecDepth 4000 in
theorem isComplete_gb18030 : isComplete Index.gb18030 = true := by
  simp only [Index.gb18030]
  apply Index.check_ofRows
  · repeat first
      | with_reducible exact Index.rows_nil
      | with_reducible apply Index.rows_cons
      | with_reducible apply Index.characters_append
      | with_reducible apply Index.characters
      | with_reducible rfl
  · decide +kernel

theorem isSound_and_complete : Index.gb18030.isSound = true ∧
    fillsGaps (seenTo Index.gb18030.rows) = true ∧
    ∀ e ∈ earlier, ∃ c, Index.gb18030.char? (twoPlace e.2.1 e.2.2) = some c ∧ c.toNat ≠ e.1 := by
  have h := isComplete_gb18030
  unfold isComplete at h
  rw [Bool.and_eq_true, Bool.and_eq_true, List.all_eq_true] at h
  refine ⟨h.1.1, h.1.2, fun e he => ?_⟩
  obtain ⟨c, hc, hne⟩ := (Option.any_eq_true _ _).1 (h.2 e he)
  exact ⟨c, hc, Nat.ne_of_beq_eq_false (by simpa using hne)⟩

theorem isSound : Index.gb18030.isSound = true := isSound_and_complete.1

theorem testBit_rows {rows : List Text} {n : Nat} :
    (rows.foldr (fun row m => bits row ||| m) 0).testBit n = true ↔
      ∃ row ∈ rows, ∃ c ∈ row, c.toNat = n := by
  induction rows with
  | nil => simp
  | cons row rows ih =>
    rw [List.foldr_cons, Nat.testBit_or, Bool.or_eq_true, testBit_bits, ih]
    simp

theorem char_ext {c d : Char} (h : c.toNat = d.toNat) : c = d := by
  rw [← Char.ofNat_toNat c, h, Char.ofNat_toNat]

/-- A code in a gap is that of a character in two bytes, unless it is seen to elsewhere. -/
theorem writeTwo_of_gap {c : Char} {g : Nat × Nat} (hg : g ∈ gaps)
    (hc : g.1 ≤ c.toNat ∧ c.toNat < g.2) :
    c.toNat = 0xE5E5 ∨ c.toNat = outOfSequence.2 ∨ ∃ bs, writeTwo c = some bs := by
  have hfilled := isSound_and_complete.2.1
  have hbit : (seenTo Index.gb18030.rows).testBit c.toNat = true := by
    have hgap := Nat.eq_of_beq_eq_true (List.all_eq_true.1 hfilled g hg)
    have hset := testBit_stretchBits.2 hc
    rw [← hgap, Nat.testBit_and, Bool.and_eq_true] at hset
    exact hset.2
  by_cases hnone : c.toNat = 0xE5E5
  · exact .inl hnone
  refine .inr ?_
  rw [seenTo, Nat.testBit_or, Nat.testBit_or, Nat.testBit_or, Nat.testBit_or, Bool.or_eq_true,
    Bool.or_eq_true, Bool.or_eq_true, Bool.or_eq_true, testBit_rows, testBit_stretchBits,
    testBit_shift_one, testBit_shift_one, testBit_bits] at hbit
  rw [writeTwo, if_neg hnone]
  rcases hbit with (((⟨row, hrow, d, hd, hcode⟩ | hsurrogate) | hnone') | hout) | ⟨d, hd, hcode⟩
  · refine .inr ?_
    obtain rfl := char_ext hcode
    have hplaces : Index.gb18030.places d ≠ [] := by
      refine Index.places_ne_nil hrow hd ?_
      rintro rfl
      have hhole : ∀ g ∈ gaps, ¬(g.1 ≤ Index.hole.toNat ∧ Index.hole.toNat < g.2) := by decide +kernel
      exact hhole g hg hc
    cases earlier.lookup d.toNat with
    | some bs => exact ⟨_, rfl⟩
    | none =>
      obtain ⟨p, ps, hp⟩ := List.exists_cons_of_ne_nil hplaces
      rw [hp]
      exact ⟨_, rfl⟩
  · have := c.valid
    rw [UInt32.isValidChar, Nat.isValidChar] at this
    have : c.val.toNat = c.toNat := rfl
    omega
  · exact absurd hnone'.symm hnone
  · exact .inl hout.symm
  · refine .inr ?_
    obtain rfl := char_ext hcode
    obtain ⟨e, he, rfl⟩ := List.mem_map.1 hd
    have hfound : ∀ e ∈ earlier, (earlier.lookup (Char.ofNat e.1).toNat).isSome = true := by decide
    obtain ⟨bs, hbs⟩ := Option.isSome_iff_exists.1 (hfound e he)
    rw [hbs]
    exact ⟨_, rfl⟩

/-! ## Four bytes -/

/-- The last of the stretches whose start, in one of the two counts, is not past a number. -/
theorem last_stretch {f : Nat × Nat → Nat} {n : Nat} {s : Nat × Nat} {l : List (Nat × Nat)} :
    (l.filter fun s => f s ≤ n).getLast? = some s ↔
      f s ≤ n ∧ ∃ before after, l = before ++ s :: after ∧ ∀ s' ∈ after, n < f s' := by
  rw [List.getLast?_filter, List.find?_eq_some_iff_append, decide_eq_true_eq]
  refine and_congr Iff.rfl ?_
  constructor
  · rintro ⟨as, bs, hl, hall⟩
    refine ⟨bs.reverse, as.reverse, ?_, fun s' hs' => ?_⟩
    · rw [← List.reverse_reverse l, hl]
      simp
    · simpa using hall s' (List.mem_reverse.1 hs')
  · rintro ⟨before, after, rfl, hall⟩
    refine ⟨after.reverse, before.reverse, by simp, fun s' hs' => ?_⟩
    simpa using hall s' (List.mem_reverse.1 hs')

/-- What holds of one stretch and the next. -/
def Follows (s s' : Nat × Nat) : Prop :=
  s.1 < s'.1 ∧ s.2 < s'.2 ∧ s.1 + min (s'.1 - s.1) (s'.2 - s.2) ≤ 39420 ∧
    (s.1 ≤ outOfSequence.1 → outOfSequence.1 < s'.1 → s.2 + (outOfSequence.1 - s.1) = 0x1E3F)

instance : DecidableRel Follows := fun _ _ => inferInstanceAs (Decidable (_ ∧ _ ∧ _ ∧ _))

theorem stretches_follow : stretches.IsChain Follows := by decide +kernel

theorem starts_after {s : Nat × Nat} {l : List (Nat × Nat)} (h : (s :: l).IsChain Follows) :
    ∀ s' ∈ l, s.1 < s'.1 := by
  have hstarts : (s :: l).IsChain fun s s' => s.1 < s'.1 := h.imp fun _ _ hfollows => hfollows.1
  have htrans : Trans (fun s s' : Nat × Nat => s.1 < s'.1) (fun s s' : Nat × Nat => s.1 < s'.1)
      (fun s s' : Nat × Nat => s.1 < s'.1) := ⟨Nat.lt_trans⟩
  exact fun s' hs' => List.rel_of_pairwise_cons (List.isChain_iff_pairwise.1 hstarts) hs'

theorem mem_gaps {before after : List (Nat × Nat)} {s s' : Nat × Nat}
    (hl : stretches = before ++ s :: s' :: after) : (s.2 + (s'.1 - s.1), s'.2) ∈ gaps := by
  have hzip (l : List (Nat × Nat)) : (s, s') ∈
      (l ++ s :: s' :: after).zip (l ++ s :: s' :: after).tail := by
    induction l with
    | nil => exact List.mem_cons_self
    | cons x l ih =>
      cases l with
      | nil => exact List.mem_cons_of_mem _ ih
      | cons y l => exact List.mem_cons_of_mem _ ih
  refine List.mem_cons_of_mem _ (List.mem_map.2 ⟨(s, s'), ?_, rfl⟩)
  rw [hl]
  exact hzip before

theorem charAt?_of_stretch {before after : List (Nat × Nat)} {s : Nat × Nat} {p : Nat}
    (hl : stretches = before ++ s :: after) (hfrom : s.1 ≤ p) (hafter : ∀ s' ∈ after, p < s'.1)
    (hrange : p ≤ 39419 ∨ (189000 ≤ p ∧ p ≤ 1237575)) (hout : p ≠ outOfSequence.1) :
    charAt? p = some (Char.ofNat (s.2 + (p - s.1))) := by
  rw [charAt?, if_neg (by omega), if_neg hout, last_stretch.2 ⟨hfrom, before, after, hl, hafter⟩]
  rfl

/-- The place of a character in four bytes leads back to the character. -/
theorem charAt?_of_placeOf? {c : Char} {p : Nat} (hp : placeOf? c = some p)
    (hgap : c.toNat = outOfSequence.2 ∨ ∀ g ∈ gaps, ¬(g.1 ≤ c.toNat ∧ c.toNat < g.2)) :
    charAt? p = some c ∧ p ≤ 1237575 := by
  unfold placeOf? at hp
  split at hp
  · rename_i hout
    obtain rfl : c = Char.ofNat outOfSequence.2 := by rw [← hout, Char.ofNat_toNat]
    rw [← Option.some.inj hp]
    decide +kernel
  · rename_i hout
    have hgap := hgap.resolve_left hout
    obtain ⟨s, hs, rfl⟩ := Option.map_eq_some_iff.1 hp
    obtain ⟨hfrom, before, after, hl, hafter⟩ := last_stretch.1 hs
    have hcode : s.2 + (s.1 + (c.toNat - s.2) - s.1) = c.toNat := by omega
    cases after with
    | nil =>
      have hlast : s = (189000, 0x10000) := by
        have hend : stretches.getLast? = some (189000, 0x10000) := by decide +kernel
        rw [hl, List.getLast?_concat] at hend
        exact Option.some.inj hend
      have hvalid : c.toNat ≤ 0x10FFFF := by
        have := c.valid
        rw [UInt32.isValidChar, Nat.isValidChar] at this
        have : c.val.toNat = c.toNat := rfl
        omega
      subst hlast
      dsimp only at hfrom hcode ⊢
      have hout : outOfSequence.1 = 7457 := rfl
      rw [charAt?_of_stretch hl (by omega) nofun (by omega) (by omega), hcode, Char.ofNat_toNat]
      exact ⟨rfl, by omega⟩
    | cons s' after =>
      have hchain := stretches_follow
      rw [hl, List.isChain_append_cons_cons] at hchain
      obtain ⟨-, ⟨hplaces, hcodes, hend, hplace⟩, hrest⟩ := hchain
      have hbefore : c.toNat < s'.2 := hafter s' List.mem_cons_self
      have hin : c.toNat < s.2 + (s'.1 - s.1) := by
        have := hgap _ (mem_gaps hl)
        omega
      have hcarved : c.toNat ≠ 0x1E3F := by
        have := hgap _ (List.mem_cons_self (a := (0x1E3F, 0x1E40)))
        omega
      have hstarts : ∀ x ∈ s' :: after, s.1 + (c.toNat - s.2) < x.1 := by
        intro x hx
        rcases List.mem_cons.1 hx with rfl | hx
        · omega
        · have := starts_after hrest x hx
          omega
      have hsequence : s.1 + (c.toNat - s.2) ≠ outOfSequence.1 := by omega
      rw [charAt?_of_stretch hl (by omega) hstarts (by omega) hsequence, hcode, Char.ofNat_toNat]
      exact ⟨rfl, by omega⟩

theorem length_eq : Index.gb18030.rows.length * Index.gb18030.width = 126 * 190 := by decide +kernel

end Gb18030
end Recipients.Charset
