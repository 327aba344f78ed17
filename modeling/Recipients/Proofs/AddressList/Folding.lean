import Recipients.Proofs.AddressList.RoundTrip

/-
  Where a header line is folded. A `Layout` is a list of entries, each with what stands before it. The
  written list is one layout (`oneLine`), with a comma and a space wherever a separator is due; a folded
  line is the same layout with some of these spaces turned into folds.

  `writeFolded_layout`: a separator is folded exactly if the entry after it would pass the last column,
  counted from the last fold before it. So entries behind a space end in time, and a line that is short
  enough as it is stays so. The column is kept by the writer as it goes along; it counts the characters
  since the last fold (`column_of_ne_fold`).
-/

namespace Recipients
namespace AddressList

/-- What stands before an entry: nothing, a separator, or a separator at which the line is folded. -/
inductive Joint where
  | none
  | space
  | fold
  deriving DecidableEq, Repr

namespace Joint

def text : Joint → Text
  | none => []
  | space => [',', ' ']
  | fold => [',', '\n', '\t']

/-- The same place in a line that is not folded. -/
def unfolded : Joint → Joint
  | fold => space
  | j => j

/-- The column behind it, where it begins at column `col`. -/
def column (col : Nat) : Joint → Nat
  | fold => foldIndent
  | j => col + j.text.length

end Joint

/-- Entries, each with what stands before it. -/
abbrev Layout := List (Joint × Address)

namespace Layout

def text (ls : Layout) : Text := ls.flatMap fun p => p.1.text ++ p.2.write

def unfolded (ls : Layout) : Layout := ls.map fun p => (p.1.unfolded, p.2)

/-- The column behind it, where it begins at column `col`. -/
def column (col : Nat) : Layout → Nat
  | [] => col
  | (j, a) :: rest => column (j.column col + a.write.length) rest

variable {ls rest : Layout}

theorem text_cons (j : Joint) (a : Address) (rest : Layout) :
    text ((j, a) :: rest) = j.text ++ (a.write ++ text rest) := by
  rw [← List.append_assoc]
  rfl

/-! ## Columns -/

theorem column_append (col : Nat) (ls rest : Layout) :
    column col (ls ++ rest) = column (column col ls) rest := by
  induction ls generalizing col with
  | nil => rfl
  | cons p ls ih => exact ih _

theorem column_of_ne_fold (col : Nat) (h : ∀ p ∈ ls, p.1 ≠ .fold) :
    ls.column col = col + ls.text.length := by
  induction ls generalizing col with
  | nil => rfl
  | cons p ls ih =>
    obtain ⟨j, a⟩ := p
    obtain ⟨hj, hls⟩ := List.forall_mem_cons.1 h
    have hcol : j.column col = col + j.text.length := by
      cases j with
      | fold => exact absurd rfl hj
      | none | space => rfl
    rw [column, ih _ hls, hcol, text_cons, List.length_append, List.length_append]
    omega

/-! ## Folds that are needed only -/

theorem text_append (ls rest : Layout) : text (ls ++ rest) = text ls ++ text rest :=
  List.flatMap_append

theorem unfolded_of_ne_fold (h : ∀ p ∈ ls, p.1 ≠ .fold) : ls.unfolded = ls := by
  have hsame : ∀ p ∈ ls, (p.1.unfolded, p.2) = id p := by
    intro p hp
    obtain ⟨j, a⟩ := p
    cases j with
    | fold => exact absurd rfl (h _ hp)
    | none | space => rfl
  rw [unfolded, List.map_congr_left hsame, List.map_id]

/-- A line that is short enough as it is has no fold, if lines are folded only before entries that have
    no place any more. -/
theorem ne_fold_of_length_le {col cols : Nat}
    (hfold : ∀ (before after : Layout) (a : Address), ls = before ++ (.fold, a) :: after →
      cols < before.column col + 2 + a.write.length)
    (hshort : col + ls.unfolded.text.length ≤ cols) : ∀ p ∈ ls, p.1 ≠ .fold := by
  -- The first fold would come at the column that the line reaches without folds.
  have hprefix (before after : Layout) (h : ls = before ++ after) : ∀ p ∈ before, p.1 ≠ .fold := by
    induction before using List.reverseRecOn generalizing after with
    | nil => exact fun _ hp => (nomatch hp)
    | append_singleton before q ih =>
      have hbefore := ih (q :: after) (by rw [h, List.append_assoc, List.singleton_append])
      refine List.forall_mem_append.2 ⟨hbefore, List.forall_mem_singleton.2 fun hq => ?_⟩
      obtain ⟨j, a⟩ := q
      obtain rfl : j = .fold := hq
      rw [List.append_assoc, List.singleton_append] at h
      have hcols := hfold before after a h
      have hunfolded : ls.unfolded = before ++ (.space, a) :: unfolded after := by
        rw [h, unfolded, List.map_append]
        exact congrArg (· ++ _) (unfolded_of_ne_fold hbefore)
      rw [hunfolded, text_append, text_cons] at hshort
      rw [column_of_ne_fold col hbefore] at hcols
      simp only [List.length_append, Joint.text, List.length_cons, List.length_nil] at hshort
      omega
  exact hprefix ls [] (List.append_nil ls).symm

end Layout

/-! ## The line as it is without folds -/

/-- The entries as they are written on one line; `pending` says that a separator is due. -/
def lineFrom : (pending : Bool) → AddressList → Layout
  | _, [] => []
  | pending, a :: rest => (if pending then .space else .none, a) :: lineFrom (separates a rest) rest

def oneLine (l : AddressList) : Layout := lineFrom false l

/-- A separator that is due before an entry is the one that follows the entry before. -/
theorem text_lineFrom (pending : Bool) (l : AddressList) (h : pending = true → l ≠ []) :
    (lineFrom pending l).text = (if pending then [',', ' '] else []) ++ write l := by
  induction l generalizing pending with
  | nil =>
    have hpending : pending = false := by simpa using h
    rw [hpending]
    rfl
  | cons a l ih =>
    have hdue : separates a l = true → l ≠ [] := by
      rintro hsep rfl
      cases hsep
    have hjoint : (if pending then Joint.space else .none).text =
        if pending then [',', ' '] else [] := by
      cases pending <;> rfl
    rw [lineFrom, Layout.text_cons, ih _ hdue, hjoint, write_cons, separator]

theorem text_oneLine (l : AddressList) : l.oneLine.text = write l :=
  text_lineFrom false l nofun

/-! ## The folded line -/

/-- The layout of a line that has reached column `col`. -/
def foldedFrom (cols : Nat) : (col : Nat) → (pending : Bool) → AddressList → Layout
  | _, _, [] => []
  | col, pending, a :: rest =>
    let j : Joint :=
      if pending then if cols < col + 2 + a.write.length then .fold else .space else .none
    (j, a) :: foldedFrom cols (j.column col + a.write.length) (separates a rest) rest

variable (cols : Nat) {col : Nat} {pending : Bool} {l : AddressList}

theorem text_foldedFrom (col : Nat) (pending : Bool) (l : AddressList) :
    (foldedFrom cols col pending l).text = foldFrom cols col pending l := by
  induction l generalizing col pending with
  | nil => rfl
  | cons a l ih =>
    rw [foldedFrom, foldFrom, Layout.text_cons, ih, List.append_assoc]
    cases pending with
    | false => rfl
    | true =>
      by_cases hcols : cols < col + 2 + a.write.length
      · simp [hcols, Joint.text, Joint.column]
      · simp [hcols, Joint.text, Joint.column]

theorem unfolded_foldedFrom (col : Nat) (pending : Bool) (l : AddressList) :
    (foldedFrom cols col pending l).unfolded = lineFrom pending l := by
  induction l generalizing col pending with
  | nil => rfl
  | cons a l ih =>
    have hjoint : (if pending then if cols < col + 2 + a.write.length then Joint.fold else .space
        else .none).unfolded = if pending then .space else .none := by
      cases pending with
      | false => rfl
      | true =>
        by_cases hcols : cols < col + 2 + a.write.length
        · simp [hcols, Joint.unfolded]
        · simp [hcols, Joint.unfolded]
    rw [foldedFrom, lineFrom, Layout.unfolded, List.map_cons, hjoint]
    exact congrArg _ (ih _ _)

/-- The entry that a separator belongs to is on a new line exactly if the old one has no place for it. -/
theorem fold_iff_of_foldedFrom {before after : Layout} {j : Joint} {a : Address}
    (h : foldedFrom cols col pending l = before ++ (j, a) :: after) (hj : j ≠ .none) :
    j = .fold ↔ cols < before.column col + 2 + a.write.length := by
  induction before generalizing col pending l with
  | nil =>
    cases l with
    | nil => cases h
    | cons b l =>
      rw [foldedFrom, List.nil_append, List.cons.injEq, Prod.mk.injEq] at h
      obtain ⟨⟨rfl, rfl⟩, -⟩ := h
      cases pending with
      | false => exact absurd rfl hj
      | true =>
        show _ ↔ cols < col + 2 + b.write.length
        by_cases hcols : cols < col + 2 + b.write.length
        · simp [hcols]
        · simp [hcols]
  | cons p before ih =>
    cases l with
    | nil => cases h
    | cons b l =>
      rw [foldedFrom, List.cons_append, List.cons.injEq] at h
      obtain ⟨rfl, htail⟩ := h
      exact ih htail

/-- A folded header line is the written list with some of its separators folded. A separator is folded
    exactly if the entry behind it would pass column `cols`; so an entry behind one that is not ends by
    then, and the line is not folded at all if it has no more than `cols` characters. -/
theorem writeFolded_layout (header : Text) (cols : Nat) (l : AddressList) :
    ∃ ls : Layout,
      writeFolded header cols l = header ++ [':', ' '] ++ ls.text ∧
      ls.unfolded = l.oneLine ∧ l.oneLine.text = write l ∧
      (∀ (before after : Layout) (j : Joint) (a : Address), ls = before ++ (j, a) :: after →
        j ≠ .none → (j = .fold ↔ cols < before.column (header.length + 2) + 2 + a.write.length)) ∧
      (∀ (before after : Layout) (a : Address), ls = before ++ (.space, a) :: after →
        Layout.column (header.length + 2) (before ++ [(.space, a)]) ≤ cols) ∧
      ((header ++ [':', ' '] ++ write l).length ≤ cols → ls = l.oneLine) := by
  have hstart : (header ++ [':', ' ']).length = header.length + 2 := List.length_append
  have hunfolded := unfolded_foldedFrom cols (header.length + 2) false l
  have hiff {before after : Layout} {j : Joint} {a : Address}
      (h : foldedFrom cols (header.length + 2) false l = before ++ (j, a) :: after) :=
    fold_iff_of_foldedFrom cols h
  refine ⟨foldedFrom cols (header.length + 2) false l, ?_, hunfolded, text_oneLine l,
    fun before after j a h => hiff h, ?_, ?_⟩
  · rw [text_foldedFrom, ← hstart]
    rfl
  · intro before after a h
    have hfits : ¬ cols < before.column (header.length + 2) + 2 + a.write.length :=
      fun hcols => nomatch (hiff h (by decide)).2 hcols
    rw [Layout.column_append]
    exact Nat.le_of_not_lt hfits
  · intro hshort
    rw [List.length_append, hstart, ← text_oneLine, oneLine, ← hunfolded] at hshort
    have hnone := Layout.ne_fold_of_length_le (fun before after a h => (hiff h (by decide)).1 rfl) hshort
    rw [oneLine, ← hunfolded, Layout.unfolded_of_ne_fold hnone]

/-- The second entry has place up to the last column, the third one has not. -/
example :
    writeFolded ['T', 'o'] 15
        [.ofMailbox ['a', '@', 'x'], .ofMailbox ['b', '@', 'x', 'y', 'z'], .ofMailbox ['c']] =
      "To: a@x, b@xyz,\n\tc".toList := by
  decide

end AddressList
end Recipients
