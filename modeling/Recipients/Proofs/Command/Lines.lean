import Recipients.Command.Lines
import Recipients.Proofs.Text

/-
  Joining lines. A line that does not go on is a logical line of its own, and what lines come to
  depends on the lines before them only through the logical line that is still open
  (`joinLines_append`).

  A line is added to a text after the text has been finished. `isAdded_iff` says exactly when
  it is one more logical line then, and the others are those of the text.
-/

namespace Recipients
namespace Command

open Text (lines finished withoutReturn)

/-! ## One line -/

theorem unfinished?_eq_some_iff {line head : Text} :
    unfinished? line = some head ↔ line = head ++ ['\\'] ∧ head.getLast? ≠ some '\\' := by
  rw [unfinished?, Option.filter_eq_some_iff, Text.beforeSuffix?_eq_some_iff]
  simp

theorem unfinished?_of_getLast? {line : Text} (h : line.getLast? ≠ some '\\') :
    unfinished? line = none := by
  rw [unfinished?, Text.beforeSuffix?_eq_none_iff.2 h]
  rfl

/-- What a line adds to a logical line. -/
def contribution (line : Text) : Text := (unfinished? line).getD line

/-- A contribution begins as its line does. -/
theorem contribution_cons {c : Char} (hc : c ≠ '\\') (line : Text) :
    ∃ r, contribution (c :: line) = c :: r := by
  unfold contribution
  cases h : unfinished? (c :: line) with
  | none => exact ⟨line, rfl⟩
  | some head =>
    obtain ⟨hline, _⟩ := unfinished?_eq_some_iff.1 h
    cases head with
    | nil => exact absurd (List.cons.inj hline).1 hc
    | cons d r => exact ⟨r, by rw [(List.cons.inj hline).1]; rfl⟩

theorem contribution_length_le (line : Text) : (contribution line).length ≤ line.length := by
  unfold contribution
  cases h : unfinished? line with
  | none => exact Nat.le_refl _
  | some head =>
    rw [(unfinished?_eq_some_iff.1 h).1, List.length_append]
    exact Nat.le_add_right _ _

theorem eq_none_of_contribution {line : Text} (h : contribution line = line) :
    unfinished? line = none := by
  cases hline : unfinished? line with
  | none => rfl
  | some head =>
    rw [contribution, hline, Option.getD_some] at h
    have hlength := congrArg List.length (unfinished?_eq_some_iff.1 hline).1
    rw [h, List.length_append] at hlength
    simp at hlength

/-! ## Joining -/

theorem joinLines_cons {line : Text} (h : unfinished? line = none) (number : Nat)
    (begun : Option (Nat × Text)) (rest : List Text) :
    joinLines number begun (line :: rest) =
      ((begun.getD (number, [])).1, (begun.getD (number, [])).2 ++ line) ::
        joinLines (number + 1) none rest := by
  rw [joinLines, h]

theorem joinLines_cons_unfinished {line head : Text} (h : unfinished? line = some head)
    (number : Nat) (begun : Option (Nat × Text)) (rest : List Text) :
    joinLines number begun (line :: rest) =
      joinLines (number + 1)
        (some ((begun.getD (number, [])).1, (begun.getD (number, [])).2 ++ head)) rest := by
  rw [joinLines, h]

/-- A line that does not go on is a logical line, where none has begun. -/
theorem joinLines_line {line : Text} (h : unfinished? line = none) (number : Nat)
    (rest : List Text) :
    joinLines number none (line :: rest) = (number, line) :: joinLines (number + 1) none rest :=
  joinLines_cons h number none rest

/-- The logical lines that some lines complete, and the one that they leave open, which is open
    only after an unfinished line. -/
theorem joinLines_append (number : Nat) (begun : Option (Nat × Text)) (ls : List Text) :
    ∃ done left, (∀ rest, joinLines number begun (ls ++ rest) =
        done ++ joinLines (number + ls.length) left rest) ∧
      (left = none ↔ (ls = [] → begun = none) ∧ ∀ l ∈ ls.getLast?, unfinished? l = none) := by
  induction ls generalizing number begun with
  | nil => exact ⟨[], begun, fun rest => rfl, by simp⟩
  | cons line ls ih =>
    have hnumber (rest : List Text) (left : Option (Nat × Text)) :
        joinLines (number + 1 + ls.length) left rest =
          joinLines (number + (line :: ls).length) left rest := by
      rw [List.length_cons, Nat.add_right_comm, Nat.add_assoc]
    cases h : unfinished? line with
    | none =>
      obtain ⟨done, left, hjoin, hleft⟩ := ih (number + 1) none
      refine ⟨((begun.getD (number, [])).1, (begun.getD (number, [])).2 ++ line) :: done, left,
        fun rest => ?_, ?_⟩
      · rw [List.cons_append, joinLines_cons h, hjoin, hnumber, List.cons_append]
      · rw [hleft]
        cases ls <;> simp [h]
    | some head =>
      obtain ⟨done, left, hjoin, hleft⟩ := ih (number + 1)
        (some ((begun.getD (number, [])).1, (begun.getD (number, [])).2 ++ head))
      refine ⟨done, left, fun rest => ?_, ?_⟩
      · rw [List.cons_append, joinLines_cons_unfinished h, hjoin, hnumber]
      · rw [hleft]
        cases ls <;> simp [h]

theorem joinLines_singleton (number : Nat) (line : Text) :
    joinLines number none [line] = [(number, contribution line)] := by
  unfold contribution
  cases h : unfinished? line with
  | none => rw [joinLines_cons h]; rfl
  | some head => rw [joinLines_cons_unfinished h]; rfl

theorem joinLines_nil (number : Nat) (begun : Option (Nat × Text)) :
    joinLines number begun [] = begun.toList := rfl

/-- A logical line that has begun goes on with what the next line contributes. -/
theorem joinLines_begun (number : Nat) (begun : Nat × Text) (line : Text) (rest : List Text) :
    ∃ more ls, joinLines number (some begun) (line :: rest) =
      (begun.1, begun.2 ++ (contribution line ++ more)) :: ls := by
  induction rest generalizing number begun line with
  | nil =>
    cases h : unfinished? line with
    | none => exact ⟨[], [], by rw [joinLines_cons h, contribution, h]; simp [joinLines]⟩
    | some head =>
      exact ⟨[], [], by rw [joinLines_cons_unfinished h, contribution, h]; simp [joinLines]⟩
  | cons next rest ih =>
    cases h : unfinished? line with
    | none =>
      refine ⟨[], joinLines (number + 1) none (next :: rest), ?_⟩
      rw [joinLines_cons h, contribution, h, List.append_nil]
      rfl
    | some head =>
      obtain ⟨more, ls, hjoin⟩ := ih (number + 1) (begun.1, begun.2 ++ head) next
      refine ⟨contribution next ++ more, ls, ?_⟩
      rw [joinLines_cons_unfinished h]
      rw [contribution, h, Option.getD_some, ← List.append_assoc]
      exact hjoin

/-- Every character of a logical line comes from one of the lines. -/
theorem mem_joinLines {number : Nat} {begun : Option (Nat × Text)} {ls : List Text}
    {joined : Nat × Text} (h : joined ∈ joinLines number begun ls) :
    ∀ c ∈ joined.2, (∃ l ∈ ls, c ∈ l) ∨ ∃ b ∈ begun, c ∈ b.2 := by
  induction ls generalizing number begun with
  | nil =>
    intro c hc
    exact .inr ⟨joined, Option.mem_toList.1 h, hc⟩
  | cons line ls ih =>
    have hbegun {c : Char} (hc : c ∈ (begun.getD (number, [])).2) : ∃ b ∈ begun, c ∈ b.2 := by
      cases begun with
      | none => cases hc
      | some b => exact ⟨b, rfl, hc⟩
    intro c hc
    cases hline : unfinished? line with
    | none =>
      rw [joinLines_cons hline] at h
      rcases List.mem_cons.1 h with rfl | h
      · rcases List.mem_append.1 hc with hc | hc
        · exact .inr (hbegun hc)
        · exact .inl ⟨line, List.mem_cons_self, hc⟩
      · rcases ih h c hc with ⟨l, hl, hc⟩ | ⟨b, hb, _⟩
        · exact .inl ⟨l, List.mem_cons_of_mem line hl, hc⟩
        · cases hb
    | some head =>
      rw [joinLines_cons_unfinished hline] at h
      rcases ih h c hc with ⟨l, hl, hc⟩ | ⟨b, hb, hc⟩
      · exact .inl ⟨l, List.mem_cons_of_mem line hl, hc⟩
      · cases hb
        rcases List.mem_append.1 hc with hc | hc
        · exact .inr (hbegun hc)
        · refine .inl ⟨line, List.mem_cons_self, ?_⟩
          rw [(unfinished?_eq_some_iff.1 hline).1]
          exact List.mem_append_left _ hc

/-! ## A line at the end of a text -/

/-- A line that can be added to a text: the text does not end in a carriage return, which
    finishing it would take for a part of the line end, and its last line does not go on; the line
    is one line, it does not end in a carriage return either, and it does not go on. -/
structure Framed (t line : Text) : Prop where
  text_return : t.getLast? ≠ some '\r'
  text_closed : ∀ l ∈ (lines t).getLast?, unfinished? l = none
  line_feed : '\n' ∉ line
  line_return : line.getLast? ≠ some '\r'
  line_closed : unfinished? line = none

/-- The logical lines of the text with one more line at its end. -/
def IsAdded (t line : Text) : Prop :=
  logicalLines (lines (finished t ++ (line ++ ['\n']))) =
    logicalLines (lines t) ++ [((lines t).length + 1, line)]

theorem Framed.isAdded {t line : Text} (h : Framed t line) : IsAdded t line := by
  obtain ⟨done, left, hjoin, hleft⟩ := joinLines_append 1 none (lines t)
  obtain rfl : left = none := hleft.2 ⟨fun _ => rfl, h.text_closed⟩
  have htext := hjoin []
  rw [List.append_nil] at htext
  unfold IsAdded
  rw [Text.lines_finished_append, Text.lines_finished h.text_return,
    Text.lines_line h.line_feed h.line_return, Text.lines_nil, logicalLines, logicalLines, hjoin,
    joinLines_line h.line_closed, htext, Nat.add_comm]
  simp [joinLines]

section Necessity

variable {t line : Text} {c : Char} {r : Text}

theorem lines_added_ne_feed (line : Text) : ∀ l ∈ lines (line ++ ['\n']), '\n' ∉ l := by
  rw [Text.lines_append, Text.lines_nil, List.append_nil]
  intro l hl hfeed
  obtain ⟨p, hp, rfl⟩ := List.mem_map.1 hl
  have hmem : '\n' ∈ p := by
    rcases Text.eq_of_withoutReturn p with ⟨h, _⟩ | h
    · rwa [h] at hfeed
    · rw [h]
      exact List.mem_append_left _ hfeed
  have hsep := (Text.mem_splitWhen hp '\n' hmem).2
  exact absurd hsep (by decide)

/-- The first line begins as the text does. -/
theorem lines_added_cons (hfeed : c ≠ '\n') (hreturn : c ≠ '\r') (r : Text) :
    ∃ q qs, lines (c :: r ++ ['\n']) = (c :: q) :: qs := by
  obtain ⟨p, ps, hsplit⟩ := List.exists_cons_of_ne_nil (Text.splitWhen_ne_nil (· == '\n') r)
  rw [Text.lines_append, Text.splitWhen_cons (by simpa using hfeed) hsplit, List.map_cons,
    Text.lines_nil, List.append_nil]
  rcases Text.eq_of_withoutReturn (c :: p) with ⟨h, _⟩ | h
  · exact ⟨p, _, by rw [h]⟩
  · cases hq : withoutReturn (c :: p) with
    | nil =>
      rw [hq] at h
      exact absurd (List.cons.inj h).1 hreturn
    | cons d q =>
      rw [hq, List.cons_append] at h
      exact ⟨q, _, by rw [(List.cons.inj h).1]⟩

/-- A text that ends in a carriage return loses it when it is finished: either its last line
    changes, or that line goes on now. -/
theorem not_isAdded_of_return (hc : c ∉ ['\n', '\r', '\\']) (u : Text) :
    ¬ IsAdded (u ++ ['\r']) (c :: r) := by
  intro h
  simp only [List.mem_cons, List.not_mem_nil, or_false, not_or] at hc
  obtain ⟨q, qs, hline⟩ := lines_added_cons hc.1 hc.2.1 r
  obtain ⟨ls, p, hlines, hfinished⟩ := Text.lines_finished_concat (by decide : '\r' ≠ '\n') u
  have hp : withoutReturn (p ++ ['\r']) = p := by
    rw [withoutReturn, Text.beforeSuffix?_eq_some_iff.2 rfl]
    rfl
  have hclosed : unfinished? (p ++ ['\r']) = none :=
    unfinished?_of_getLast? (by rw [List.getLast?_concat]; decide)
  obtain ⟨done, left, hjoin, _⟩ := joinLines_append 1 none ls
  rw [IsAdded, Text.lines_finished_append, hlines, hfinished, hp, hline, logicalLines, logicalLines,
    List.append_assoc, hjoin, hjoin, List.append_assoc, List.append_cancel_left_eq,
    joinLines_cons hclosed, List.singleton_append] at h
  cases hopen : unfinished? p with
  | none =>
    rw [joinLines_cons hopen] at h
    have htext := congrArg Prod.snd (List.cons.inj h).1
    have hlength := congrArg List.length htext
    simp at hlength
  | some head =>
    rw [joinLines_cons_unfinished hopen] at h
    obtain ⟨more, later, hmore⟩ := joinLines_begun (1 + ls.length + 1)
      ((left.getD (1 + ls.length, [])).1, (left.getD (1 + ls.length, [])).2 ++ head) (c :: q) qs
    obtain ⟨s, hs⟩ := contribution_cons hc.2.2 q
    rw [hmore, hs, (unfinished?_eq_some_iff.1 hopen).1] at h
    have htext := congrArg Prod.snd (List.cons.inj h).1
    simp only [List.append_assoc, List.append_cancel_left_eq, List.cons_append] at htext
    exact hc.2.2 (List.cons.inj htext).1

/-- A text that is the only logical line of itself is one line that does not go on. -/
theorem framed_of_joinLines {number n : Nat}
    (h : joinLines number none (lines (line ++ ['\n'])) = [(n, line)]) :
    '\n' ∉ line ∧ line.getLast? ≠ some '\r' ∧ unfinished? line = none := by
  have hfeed : '\n' ∉ line := by
    intro hmem
    have hjoined : (n, line) ∈ joinLines number none (lines (line ++ ['\n'])) := by
      rw [h]
      exact List.mem_cons_self
    rcases mem_joinLines hjoined '\n' hmem with ⟨l, hl, hbad⟩ | ⟨b, hb, _⟩
    · exact lines_added_ne_feed line l hl hbad
    · cases hb
  rw [Text.lines_of_not_mem hfeed, Text.lines_nil, joinLines_singleton] at h
  have htext : contribution (withoutReturn line) = line := congrArg Prod.snd (List.cons.inj h).1
  have hle := contribution_length_le (withoutReturn line)
  rcases Text.eq_of_withoutReturn line with ⟨hsame, hlast⟩ | hlonger
  · rw [hsame] at htext
    exact ⟨hfeed, hlast, eq_none_of_contribution htext⟩
  · have hlength := congrArg List.length hlonger
    rw [List.length_append, List.length_singleton] at hlength
    rw [htext] at hle
    omega

/-- Where a line has been added, its text was ready for it and it is one line. -/
theorem IsAdded.framed (hc : c ∉ ['\n', '\r', '\\']) (h : IsAdded t (c :: r)) :
    Framed t (c :: r) := by
  have hreturn : t.getLast? ≠ some '\r' := by
    intro hlast
    obtain ⟨u, rfl⟩ := List.getLast?_eq_some_iff.1 hlast
    exact not_isAdded_of_return hc u h
  simp only [List.mem_cons, List.not_mem_nil, or_false, not_or] at hc
  obtain ⟨done, left, hjoin, hleft⟩ := joinLines_append 1 none (lines t)
  have htext := hjoin []
  rw [List.append_nil] at htext
  rw [IsAdded, Text.lines_finished_append, Text.lines_finished hreturn, logicalLines, logicalLines,
    hjoin, htext, List.append_assoc, List.append_cancel_left_eq, joinLines_nil] at h
  cases left with
  | some begun =>
    -- The line would go on a logical line that is open, and change it.
    obtain ⟨q, qs, hline⟩ := lines_added_cons hc.1 hc.2.1 r
    obtain ⟨more, later, hmore⟩ := joinLines_begun (1 + (lines t).length) begun (c :: q) qs
    obtain ⟨s, hs⟩ := contribution_cons hc.2.2 q
    rw [hline, hmore, hs, Option.toList_some, List.singleton_append] at h
    have hlength := congrArg (fun p : Nat × Text => p.2.length) (List.cons.inj h).1
    simp at hlength
  | none =>
    rw [Option.toList_none, List.nil_append] at h
    obtain ⟨hfeed, hlast, hclosed⟩ := framed_of_joinLines h
    exact ⟨hreturn, (hleft.1 rfl).2, hfeed, hlast, hclosed⟩

/-- Exactly when its text is ready for a line, and the line is one line, is it added. -/
theorem isAdded_iff (hc : c ∉ ['\n', '\r', '\\']) : IsAdded t (c :: r) ↔ Framed t (c :: r) :=
  ⟨IsAdded.framed hc, Framed.isAdded⟩

end Necessity

end Command
end Recipients
