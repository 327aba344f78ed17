import Recipients.Proofs.Command.Lines

/-
  Logical lines as a partition of the lines of a text. A logical line begins at the first line, and
  at each line behind one that does not go on; its text is that of the lines up to where the next one
  begins, each without the backslash by which it goes on (`IsPartition`). `joinLines_cut` takes off
  the first logical line; the partition follows line by line from it (`isPartition_logicalLines`).
-/

namespace Recipients
namespace Command

/-- The line ends in a backslash that is not preceded by another. -/
def GoesOn (line : Text) : Prop :=
  line.getLast? = some '\\' ∧ line.dropLast.getLast? ≠ some '\\'

instance : DecidablePred GoesOn :=
  fun line => inferInstanceAs (Decidable (line.getLast? = some '\\' ∧ _))

/-- The lines numbered from `n` up to before `m`, where the first of `ls` has the number `first`. -/
def linesBetween (first : Nat) (ls : List Text) (n m : Nat) : List Text :=
  (ls.drop (n - first)).take (m - n)

/-- The number of the first of the logical lines, or of the line behind the last one of `ls`. -/
def nextNumber (first : Nat) (ls : List Text) (joined : List (Nat × Text)) : Nat :=
  (joined.head?.map Prod.fst).getD (first + ls.length)

/-- The logical lines `joined` share out the lines `ls`, which are counted from `first`. -/
structure IsPartition (first : Nat) (ls : List Text) (joined : List (Nat × Text)) : Prop where
  increasing : (joined.map Prod.fst).Pairwise (· < ·)
  nonempty : joined = [] ↔ ls = []
  starts : ∀ n ∈ (joined.map Prod.fst).head?, n = first
  /-- Behind a line that does not go on, and behind no other, a logical line begins. -/
  begins : ∀ before l after, ls = before ++ l :: after → after ≠ [] →
    (first + before.length + 1 ∈ joined.map Prod.fst ↔ ¬ GoesOn l)
  /-- All lines but the last one of a logical line lose their backslash; the last one does where the
      lines end with it, if it goes on. -/
  text : ∀ before n t after, joined = before ++ (n, t) :: after →
    ∃ run last, linesBetween first ls n (nextNumber first ls after) = run ++ [last] ∧
      (∀ l ∈ run, GoesOn l) ∧
      t = (run.map List.dropLast).flatten ++
        (if after = [] ∧ GoesOn last then last.dropLast else last)

/-! ## Numbers and lines -/

section

variable {first n : Nat} {head rest : List Text}

theorem linesBetween_left (first : Nat) (head rest : List Text) :
    linesBetween first (head ++ rest) first (first + head.length) = head := by
  rw [linesBetween, Nat.sub_self, List.drop_zero, Nat.add_sub_cancel_left, List.take_left]

theorem linesBetween_right (hn : first + head.length ≤ n) (m : Nat) :
    linesBetween first (head ++ rest) n m = linesBetween (first + head.length) rest n m := by
  have hdrop : n - first = head.length + (n - (first + head.length)) := by omega
  rw [linesBetween, linesBetween, hdrop, List.drop_length_add_append]

end

/-- Where a line stands in a list that is cut at another line: before that, there, or behind it. -/
theorem split_cases {α : Type} {run rest before after : List α} {last l : α}
    (h : run ++ last :: rest = before ++ l :: after) :
    (l ∈ run ∧ before.length < run.length) ∨ (before = run ∧ l = last ∧ after = rest) ∨
      ∃ mid, before = run ++ last :: mid ∧ rest = mid ++ l :: after := by
  rcases List.append_eq_append_iff.1 h with ⟨mid, rfl, hmid⟩ | ⟨mid, rfl, hmid⟩
  · cases mid with
    | nil =>
      obtain ⟨rfl, rfl⟩ := List.cons.inj hmid
      exact .inr (.inl ⟨List.append_nil run, rfl, rfl⟩)
    | cons x mid =>
      obtain ⟨rfl, rfl⟩ := List.cons.inj hmid
      exact .inr (.inr ⟨mid, rfl, rfl⟩)
  · cases mid with
    | nil =>
      obtain ⟨rfl, rfl⟩ := List.cons.inj hmid
      exact .inr (.inl ⟨(List.append_nil before).symm, rfl, rfl⟩)
    | cons x mid =>
      obtain ⟨rfl, -⟩ := List.cons.inj hmid
      exact .inl ⟨by simp, by simp⟩

/-! ## One logical line -/

theorem unfinished?_of_goesOn {line : Text} (h : GoesOn line) :
    unfinished? line = some line.dropLast := by
  obtain ⟨head, rfl⟩ := List.getLast?_eq_some_iff.1 h.1
  have hhead := h.2
  rw [List.dropLast_concat] at hhead ⊢
  exact unfinished?_eq_some_iff.2 ⟨rfl, hhead⟩

theorem unfinished?_of_not_goesOn {line : Text} (h : ¬ GoesOn line) : unfinished? line = none := by
  cases hline : unfinished? line with
  | none => rfl
  | some head =>
    obtain ⟨rfl, hhead⟩ := unfinished?_eq_some_iff.1 hline
    exact absurd ⟨List.getLast?_concat, by rwa [List.dropLast_concat]⟩ h

/-- The lines up to the first one that does not go on, or to the end, come to one logical line. -/
theorem joinLines_cut (number : Nat) (begun : Option (Nat × Text)) {ls : List Text} (hls : ls ≠ []) :
    ∃ run last rest, ls = run ++ last :: rest ∧ (∀ l ∈ run, GoesOn l) ∧
      (GoesOn last → rest = []) ∧
      joinLines number begun ls =
        ((begun.getD (number, [])).1, (begun.getD (number, [])).2 ++ ((run.map List.dropLast).flatten ++
          (if GoesOn last then last.dropLast else last))) ::
          joinLines (number + run.length + 1) none rest := by
  induction ls generalizing number begun with
  | nil => exact absurd rfl hls
  | cons line ls ih =>
    by_cases hline : GoesOn line
    · rcases eq_or_ne ls [] with rfl | hmore
      · refine ⟨[], line, [], rfl, by simp, fun _ => rfl, ?_⟩
        rw [joinLines_cons_unfinished (unfinished?_of_goesOn hline), if_pos hline]
        rfl
      · -- The line goes on in the first of the lines behind it.
        obtain ⟨run, last, rest, rfl, hrun, hlast, hjoin⟩ := ih (number + 1)
          (some ((begun.getD (number, [])).1, (begun.getD (number, [])).2 ++ line.dropLast)) hmore
        refine ⟨line :: run, last, rest, rfl, List.forall_mem_cons.2 ⟨hline, hrun⟩, hlast, ?_⟩
        rw [joinLines_cons_unfinished (unfinished?_of_goesOn hline), hjoin, List.length_cons,
          Nat.add_right_comm number 1, ← Nat.add_assoc]
        simp
    · refine ⟨[], line, ls, rfl, by simp, fun h => absurd h hline, ?_⟩
      rw [joinLines_cons (unfinished?_of_not_goesOn hline), if_neg hline]
      rfl

/-! ## All of them -/

namespace IsPartition

variable {first : Nat} {ls run rest : List Text} {last t : Text} {joined : List (Nat × Text)}

theorem nil (first : Nat) : IsPartition first [] [] where
  increasing := .nil
  nonempty := by simp
  starts := by simp
  begins := by simp
  text := by simp

theorem first_le (h : IsPartition first ls joined) : ∀ n ∈ joined.map Prod.fst, first ≤ n := by
  intro n hn
  cases hnumbers : joined.map Prod.fst with
  | nil => simp [hnumbers] at hn
  | cons m ns =>
    obtain rfl : m = first := h.starts m (by simp [hnumbers])
    have hincreasing := h.increasing
    rw [hnumbers] at hn hincreasing
    rcases List.mem_cons.1 hn with rfl | hn
    · exact Nat.le_refl _
    · exact Nat.le_of_lt (List.rel_of_pairwise_cons hincreasing hn)

theorem nextNumber_eq (h : IsPartition first ls joined) : nextNumber first ls joined = first := by
  cases joined with
  | nil =>
    obtain rfl := h.nonempty.1 rfl
    rfl
  | cons j joined => exact h.starts j.1 rfl

theorem first_mem (h : IsPartition first ls joined) (hls : ls ≠ []) :
    first ∈ joined.map Prod.fst := by
  cases joined with
  | nil => exact absurd (h.nonempty.1 rfl) hls
  | cons j joined =>
    obtain rfl : j.1 = first := h.starts j.1 rfl
    exact List.mem_cons_self

/-- A logical line in front of the others. -/
theorem cons (hrun : ∀ l ∈ run, GoesOn l) (hlast : GoesOn last → rest = [])
    (ht : t = (run.map List.dropLast).flatten ++ (if GoesOn last then last.dropLast else last))
    (h : IsPartition (first + run.length + 1) rest joined) :
    IsPartition first (run ++ last :: rest) ((first, t) :: joined) where
  increasing := by
    refine List.pairwise_cons.2 ⟨fun n hn => ?_, h.increasing⟩
    have hle := h.first_le n hn
    omega
  nonempty := by simp
  starts := by simp
  begins := by
    intro before l after hsplit hafter
    have hne : first + before.length + 1 ≠ first := by omega
    rw [List.map_cons, List.mem_cons, or_iff_right hne]
    rcases split_cases hsplit with ⟨hl, hlength⟩ | ⟨rfl, rfl, rfl⟩ | ⟨mid, rfl, rfl⟩
    · -- Inside the logical line: those that begin behind it have greater numbers.
      refine ⟨fun hmem => ?_, fun hnot => absurd (hrun l hl) hnot⟩
      have hle := h.first_le _ hmem
      omega
    · exact ⟨fun _ hgoes => hafter (hlast hgoes), fun _ => h.first_mem hafter⟩
    · have hlater := h.begins mid l after rfl hafter
      have hnumber : first + (run ++ last :: mid).length = first + run.length + 1 + mid.length := by
        rw [List.length_append, List.length_cons]
        omega
      rwa [hnumber]
  text := by
    intro before n s after hsplit
    have hlength : first + (run ++ [last]).length = first + run.length + 1 := by
      rw [List.length_append, List.length_singleton, Nat.add_assoc]
    have hnext : nextNumber first (run ++ last :: rest) after =
        nextNumber (first + run.length + 1) rest after := by
      rw [nextNumber, nextNumber, ← hlength, List.append_cons, List.length_append, Nat.add_assoc]
    cases before with
    | nil =>
      obtain ⟨hhead, rfl⟩ := List.cons.inj hsplit
      obtain ⟨rfl, rfl⟩ := Prod.mk.inj hhead
      refine ⟨run, last, ?_, hrun, ?_⟩
      · rw [hnext, h.nextNumber_eq, ← hlength, List.append_cons, linesBetween_left]
      · have hsame : (joined = [] ∧ GoesOn last) ↔ GoesOn last :=
          ⟨And.right, fun hgoes => ⟨h.nonempty.2 (hlast hgoes), hgoes⟩⟩
        rw [ht]
        simp only [hsame]
    | cons j before =>
      obtain ⟨-, rfl⟩ := List.cons.inj hsplit
      obtain ⟨run', last', hlines, hrun', hs⟩ := h.text before n s after rfl
      have hle := h.first_le n (by simp)
      rw [← hlength] at hle hlines
      refine ⟨run', last', ?_, hrun', hs⟩
      rw [hnext, ← hlength, List.append_cons, linesBetween_right hle, hlines]

end IsPartition

theorem isPartition_joinLines (number : Nat) (ls : List Text) :
    IsPartition number ls (joinLines number none ls) := by
  induction hn : ls.length using Nat.strongRecOn generalizing number ls with
  | ind n ih =>
    subst hn
    rcases eq_or_ne ls [] with rfl | hls
    · exact .nil number
    · obtain ⟨run, last, rest, rfl, hrun, hlast, hjoin⟩ := joinLines_cut number none hls
      have hshorter : rest.length < (run ++ last :: rest).length := by
        rw [List.length_append, List.length_cons]
        omega
      rw [hjoin]
      exact .cons hrun hlast rfl (ih _ hshorter (number + run.length + 1) rest rfl)

/-- The logical lines share out the lines, which are counted from 1. -/
theorem isPartition_logicalLines (ls : List Text) : IsPartition 1 ls (logicalLines ls) :=
  isPartition_joinLines 1 ls

/-- A backslash behind another does not make a line go on; at the end a line goes on in nothing. -/
example :
    logicalLines ["a\\".toList, "b".toList, "c\\\\".toList, "d\\".toList] =
      [(1, "ab".toList), (3, "c\\\\".toList), (4, "d".toList)] := by
  decide

end Command
end Recipients
