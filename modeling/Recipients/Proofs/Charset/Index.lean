import Recipients.Charset

/-
  Indexes. The place of a character leads back to the character, and no character of an index is in ASCII
  (`char?_of_mem_places`, `char?_not_ascii`). Where no character stands twice, a place is also found again
  from its character (`head?_places`). These rest on what the rows look like (`isSound`, `isDistinct`),
  which is looked up in the tables.
-/

namespace Recipients.Charset
namespace Index

/-- Whether no row is longer than the width and no character of ASCII stands in a row. -/
def isSound (ix : Index) : Bool :=
  ix.rows.all fun row => row.length.ble ix.width && row.all fun c => Nat.ble 128 c.toNat

/-- Whether no character stands twice in a text, holes aside. The bits of `met` stand for the characters
    before it. -/
def isDistinctAfter (met : Nat) : Text → Bool
  | [] => true
  | c :: t =>
    bif c.toNat.beq 0xFFFD then isDistinctAfter met t
    else !met.testBit c.toNat && isDistinctAfter (met ||| 1 <<< c.toNat) t

def isDistinct (ix : Index) : Bool := isDistinctAfter 0 ix.rows.flatten

def isOneToOne (ix : Index) : Bool := ix.isSound && ix.isDistinct

theorem isOneToOne_iff {ix : Index} : ix.isOneToOne = true ↔ ix.isSound = true ∧ ix.isDistinct = true :=
  Bool.and_eq_true_iff

theorem row_sound {ix : Index} (h : ix.isSound = true) {row : Text} (hrow : row ∈ ix.rows) :
    row.length ≤ ix.width ∧ ∀ c ∈ row, 128 ≤ c.toNat := by
  simpa using List.all_eq_true.1 h row hrow

/-! ## Places -/

theorem mem_placesInRow {c : Char} {start p : Nat} {row : Text} :
    p ∈ placesInRow c start row ↔ ∃ i, row[i]? = some c ∧ p = start + i := by
  induction row generalizing start with
  | nil => simp [placesInRow]
  | cons d row ih =>
    have hrest : (∃ i, row[i]? = some c ∧ p = start + 1 + i) ↔
        ∃ i, (d :: row)[i + 1]? = some c ∧ p = start + (i + 1) :=
      exists_congr fun i => and_congr Iff.rfl (by omega)
    have hsplit : (∃ i, (d :: row)[i]? = some c ∧ p = start + i) ↔
        (d = c ∧ p = start) ∨ ∃ i, (d :: row)[i + 1]? = some c ∧ p = start + (i + 1) := by
      constructor
      · rintro ⟨_ | i, hi, hp⟩
        · exact .inl ⟨Option.some.inj hi, hp⟩
        · exact .inr ⟨i, hi, hp⟩
      · rintro (⟨rfl, hp⟩ | ⟨i, hi, hp⟩)
        · exact ⟨0, rfl, hp⟩
        · exact ⟨i + 1, hi, hp⟩
    rw [hsplit, ← hrest, ← ih, placesInRow]
    split
    · rename_i hd
      simp [hd]
    · rename_i hd
      simp [hd]

theorem mem_placesFrom {width start p : Nat} {c : Char} {rows : List Text} :
    p ∈ placesFrom width c start rows ↔
      ∃ (k i : Nat) (row : Text), rows[k]? = some row ∧ row[i]? = some c ∧ p = start + k * width + i := by
  induction rows generalizing start with
  | nil => simp [placesFrom]
  | cons first rows ih =>
    have hfirst : p ∈ placesFrom width c start (first :: rows) ↔
        p ∈ placesInRow c start first ∨ p ∈ placesFrom width c (start + width) rows := by
      rw [placesFrom]
      split
      · rw [List.mem_append]
      · rename_i habsent
        have hnone : p ∉ placesInRow c start first := fun hp => by
          obtain ⟨i, hi, -⟩ := mem_placesInRow.1 hp
          exact habsent (List.contains_iff_mem.2 (List.mem_of_getElem? hi))
        simp [hnone]
    rw [hfirst, mem_placesInRow, ih]
    constructor
    · rintro (⟨i, hi, rfl⟩ | ⟨k, i, row, hrow, hi, rfl⟩)
      · exact ⟨0, i, first, rfl, hi, by omega⟩
      · exact ⟨k + 1, i, row, hrow, hi, by rw [Nat.succ_mul]; omega⟩
    · rintro ⟨_ | k, i, row, hrow, hi, rfl⟩
      · obtain rfl := Option.some.inj hrow
        exact .inl ⟨i, hi, by omega⟩
      · exact .inr ⟨k, i, row, hrow, hi, by rw [Nat.succ_mul]; omega⟩

variable {ix : Index} {c : Char} {p : Nat}

/-- The places of a character are the row and the column where it stands. -/
theorem mem_places (hc : c ≠ hole) : p ∈ ix.places c ↔
    ∃ (k i : Nat) (row : Text), ix.rows[k]? = some row ∧ row[i]? = some c ∧ p = k * ix.width + i := by
  rw [places, if_neg hc, mem_placesFrom]
  simp only [Nat.zero_add]

theorem ne_hole_of_mem_places (hp : p ∈ ix.places c) : c ≠ hole := by
  rintro rfl
  rw [places, if_pos rfl] at hp
  cases hp

theorem places_ne_nil {row : Text} (hrow : row ∈ ix.rows) (hmem : c ∈ row) (hc : c ≠ hole) :
    ix.places c ≠ [] := by
  obtain ⟨k, hk⟩ := List.getElem?_of_mem hrow
  obtain ⟨i, hi⟩ := List.getElem?_of_mem hmem
  exact List.ne_nil_of_mem ((mem_places hc).2 ⟨k, i, row, hk, hi, rfl⟩)

/-- The place of a character leads to the character, and it is in the index. -/
theorem char?_of_mem_places (hsound : ix.isSound = true) (hp : p ∈ ix.places c) :
    ix.char? p = some c ∧ p < ix.rows.length * ix.width := by
  have hc := ne_hole_of_mem_places hp
  obtain ⟨k, i, row, hrow, hi, rfl⟩ := (mem_places hc).1 hp
  have hwidth : i < ix.width := by
    have := (row_sound hsound (List.mem_of_getElem? hrow)).1
    have := (List.getElem?_eq_some_iff.1 hi).1
    omega
  have hdiv : (k * ix.width + i) / ix.width = k := by
    rw [Nat.mul_comm, Nat.mul_add_div (by omega), Nat.div_eq_of_lt hwidth, Nat.add_zero]
  have hmod : (k * ix.width + i) % ix.width = i := by
    rw [Nat.mul_comm, Nat.mul_add_mod, Nat.mod_eq_of_lt hwidth]
  constructor
  · rw [char?, hdiv, hmod, hrow, Option.bind_some, hi]
    simp [hc]
  · calc k * ix.width + i < k * ix.width + ix.width := Nat.add_lt_add_left hwidth _
      _ = (k + 1) * ix.width := (Nat.succ_mul k ix.width).symm
      _ ≤ ix.rows.length * ix.width :=
        Nat.mul_le_mul_right _ (List.getElem?_eq_some_iff.1 hrow).1

theorem char?_not_ascii (hsound : ix.isSound = true) (h : ix.char? p = some c) : 128 ≤ c.toNat := by
  obtain ⟨h, -⟩ := Option.filter_eq_some_iff.1 h
  obtain ⟨row, hrow, hc⟩ := Option.bind_eq_some_iff.1 h
  exact (row_sound hsound (List.mem_of_getElem? hrow)).2 c (List.mem_of_getElem? hc)

/-! ## Characters that stand once -/

theorem toNat_beq_hole : c.toNat.beq 0xFFFD = true ↔ c = hole := by
  rw [Nat.beq_eq, ← Char.toNat_inj]
  rfl

theorem count_of_isDistinctAfter {met : Nat} {t : Text} (h : isDistinctAfter met t = true)
    (hc : c ≠ hole) : t.count c + (met.testBit c.toNat).toNat ≤ 1 := by
  induction t generalizing met with
  | nil => simpa using Bool.toNat_le _
  | cons d t ih =>
    rw [isDistinctAfter, cond_eq_ite] at h
    split at h
    · rename_i hd
      rw [List.count_cons_of_ne (toNat_beq_hole.1 hd ▸ hc.symm)]
      exact ih h
    · obtain ⟨hnew, hrest⟩ := (Bool.and_eq_true _ _).mp h
      have hcount := ih hrest
      rw [Nat.testBit_or, Nat.one_shiftLeft, Nat.testBit_two_pow] at hcount
      by_cases hd : d = c
      · subst hd
        simp at hnew hcount
        simp [hnew, hcount]
      · have hcode : d.toNat ≠ c.toNat := fun h => hd (Char.toNat_inj.1 h)
        rw [List.count_cons_of_ne hd]
        simpa [hcode] using hcount

theorem length_placesInRow (start : Nat) (row : Text) :
    (placesInRow c start row).length = row.count c := by
  induction row generalizing start with
  | nil => rfl
  | cons d row ih =>
    rw [placesInRow]
    split
    · rename_i hd
      rw [List.length_cons, ih, hd, List.count_cons_self]
    · rename_i hd
      rw [ih, List.count_cons_of_ne hd]

theorem length_placesFrom (width start : Nat) (rows : List Text) :
    (placesFrom width c start rows).length = rows.flatten.count c := by
  induction rows generalizing start with
  | nil => rfl
  | cons row rows ih =>
    rw [placesFrom, List.flatten_cons, List.count_append]
    split
    · rw [List.length_append, length_placesInRow, ih]
    · rename_i habsent
      have hnone : row.count c = 0 :=
        List.count_eq_zero.2 fun hc => habsent (List.contains_iff_mem.2 hc)
      rw [ih, hnone, Nat.zero_add]

theorem mem_places_of_char? (h : ix.char? p = some c) : p ∈ ix.places c := by
  obtain ⟨hchar, hc⟩ := Option.filter_eq_some_iff.1 h
  obtain ⟨row, hrow, hi⟩ := Option.bind_eq_some_iff.1 hchar
  exact (mem_places (by simpa using hc)).2 ⟨_, _, row, hrow, hi, (Nat.div_add_mod' p ix.width).symm⟩

theorem head?_places (hdistinct : ix.isDistinct = true) (h : ix.char? p = some c) :
    (ix.places c).head? = some p := by
  have hp := mem_places_of_char? h
  have hc := ne_hole_of_mem_places hp
  have hlength : (ix.places c).length ≤ 1 := by
    rw [places, if_neg hc, length_placesFrom]
    exact Nat.le_trans (Nat.le_add_right _ _) (count_of_isDistinctAfter hdistinct hc)
  match ix.places c, hp, hlength with
  | [q], hp, _ => rw [List.mem_singleton.1 hp, List.head?_cons]

/-! ## Rows -/

/- The rows are written as strings, joined where they are long. These lemmas give their characters one by
   one, without which the kernel cannot look at them. -/

theorem characters {s : String} {t : Text} (h : s = String.ofList t) : s.toList = t := by
  rw [h, String.toList_ofList]

theorem characters_append {s s' : String} {t t' : Text} (h : s.toList = t) (h' : s'.toList = t') :
    (s ++ s').toList = t ++ t' := by
  rw [String.toList_append, h, h']

theorem rows_nil : [].map String.toList = [] := rfl

theorem rows_cons {s : String} {ss : List String} {t : Text} {ts : List Text} (h : s.toList = t)
    (hs : ss.map String.toList = ts) : (s :: ss).map String.toList = t :: ts := by
  rw [List.map_cons, h, hs]

/-- A check of the rows, character by character, is one of the index. -/
theorem check_ofRows {check : Index → Bool} {width : Nat} {ss : List String} {rows : List Text}
    (hrows : ss.map String.toList = rows) (h : check ⟨width, rows⟩ = true) :
    check (ofRows width ss) = true := by
  rw [ofRows, hrows]
  exact h

theorem characters_controls : controls.toList = (List.range' 128 32).map Char.ofNat := by
  apply Eq.trans
  · unfold controls
    repeat first
      | with_reducible apply characters_append
      | with_reducible apply characters
      | with_reducible rfl
  · decide +kernel

set_option maxRecDepth 4000 in
theorem isSound_pairs : jis0208.isSound = true ∧ jis0212.isSound = true ∧ big5.isSound = true ∧
    ksX1001.isOneToOne = true := by
  unfold jis0208 jis0212 big5 ksX1001
  refine ⟨?_, ?_, ?_, ?_⟩
  all_goals
    apply check_ofRows
    · repeat first
        | with_reducible exact rows_nil
        | with_reducible apply rows_cons
        | with_reducible apply characters_append
        | with_reducible apply characters
        | with_reducible rfl
    · decide +kernel

end Index

theorem isOneToOne_upperHalf {cs : Charset} {ix : Index} (h : cs.upperHalf? = some ix) :
    ix.isOneToOne = true := by
  cases cs <;> cases h
  all_goals
    apply Index.check_ofRows
    · repeat first
        | with_reducible exact Index.rows_nil
        | with_reducible apply Index.rows_cons
        | with_reducible exact Index.characters_controls
        | with_reducible apply Index.characters_append
        | with_reducible apply Index.characters
        | with_reducible rfl
    · decide +kernel

end Recipients.Charset
