import Recipients.Proofs.Address.Followed

/-
  Quotes and backslashes are counted: no reader makes more of them than it takes from its input.
  A quoted string that is kept as such has exactly as many as the shortest way to write it; one that
  is taken out of its quotes has at least two fewer (`readQuoted_marks`).
-/

namespace Recipients
namespace Address

/-- A quote or a backslash. -/
def isMark (c : Char) : Bool := c == '\\' || c == '"'

def marks (t : Text) : Nat := t.countP isMark

variable {cs t u rest : Text} {c : Char}

theorem marks_nil : marks [] = 0 := rfl

theorem marks_append (t u : Text) : marks (t ++ u) = marks t + marks u := List.countP_append ..

theorem marks_cons (c : Char) (t : Text) : marks (c :: t) = marks t + if isMark c then 1 else 0 :=
  List.countP_cons ..

theorem marks_of_suffix (h : t <:+ u) : marks t ≤ marks u := h.sublist.countP_le

theorem marks_escape (t : Text) : marks (escape t) = 2 * marks t := by
  induction t with
  | nil => rfl
  | cons c t ih =>
    rw [escape_cons, marks_append, ih, marks_cons]
    split
    · rename_i hc
      have hmark : isMark c = true := by simpa [isMark] using hc
      simp only [marks_cons, marks_nil, hmark, show isMark '\\' = true from rfl, ↓reduceIte]
      omega
    · rename_i hc
      have hplain : isMark c = false := by simpa [isMark] using hc
      simp only [marks_cons, marks_nil, hplain, Bool.false_eq_true, ↓reduceIte]
      omega

theorem marks_quoted (t : Text) : marks (quoted t) = 2 * marks t + 2 := by
  have hquoted : quoted t = '"' :: (escape t ++ ['"']) := rfl
  rw [hquoted, marks_cons, marks_append, marks_escape]
  rfl

/-! ## Tokens -/

theorem readComment_marks {d : Nat} (h : readComment d cs = .ok (t, rest)) :
    marks t + marks rest ≤ marks cs := by
  fun_induction readComment d cs generalizing t with
  | case1 d c r ih | case2 d r ih | case4 d r ih | case6 d c r _ _ _ _ _ ih =>
    obtain ⟨u, hu, rfl⟩ := Found.cons_eq_ok.1 h
    have := ih hu
    simp only [marks_cons] at *
    omega
  | case3 r =>
    cases h
    rw [marks_nil, Nat.zero_add]
    exact marks_of_suffix (List.suffix_cons ..)
  | case5 | case7 => cases h

/-- Inside quotes a quote or backslash needs one more before it, and the closing quote is one. -/
theorem readQuoted_marks (h : readQuoted cs = .ok (t, rest)) :
    2 * marks t + marks rest + 1 ≤ marks cs := by
  fun_induction readQuoted cs generalizing t with
  | case1 c r ih =>
    obtain ⟨u, hu, rfl⟩ := Found.cons_eq_ok.1 h
    have := ih hu
    simp only [marks_cons, show isMark '\\' = true from rfl, ↓reduceIte]
    split <;> omega
  | case2 r =>
    cases h
    simp [isMark, marks]
  | case3 | case5 => cases h
  | case4 c r hescape hclose hlast ih =>
    obtain ⟨u, hu, rfl⟩ := Found.cons_eq_ok.1 h
    have hplain : isMark c = false := by
      have hbackslash := ne_backslash_of_last hescape hlast
      simpa [isMark, hbackslash] using hclose
    have := ih hu
    simp only [marks_cons, hplain, Bool.false_eq_true, ↓reduceIte]
    omega

theorem readToken_marks (h : readToken cs = .ok (t, rest)) : marks t + marks rest ≤ marks cs := by
  cases cs with
  | nil =>
    cases h
    exact Nat.le_refl _
  | cons c r =>
    have htail : marks r ≤ marks (c :: r) := marks_of_suffix (List.suffix_cons ..)
    simp only [readToken] at h
    split at h
    · exact Nat.le_trans (readComment_marks h) htail
    · split at h
      · have := readQuoted_marks h
        omega
      · split at h
        · cases h
          exact Nat.le_of_eq (marks_append [c] rest).symm
        · cases h
          exact Nat.le_of_eq (by rw [← marks_append, List.takeWhile_append_dropWhile])

/-! ## Mailboxes -/

theorem marks_skipGap (h : skipGap cs = c :: t) : marks (c :: t) ≤ marks cs :=
  marks_of_suffix (suffix_of_skipGap h)

theorem readPart_marks {allowed text comment : Text} {p : Part}
    (h : readPart allowed text comment cs = .ok p) :
    marks p.text + marks p.rest ≤ marks text + marks cs := by
  fun_induction readPart allowed text comment cs with
  | case1 =>
    rw [← Except.ok.inj h]
    exact Nat.add_le_add_left (Nat.zero_le _) _
  | case2 text comment cs c r hs _ =>
    rw [← Except.ok.inj h]
    exact Nat.add_le_add_left (marks_skipGap hs) _
  | case3 | case5 => cases h
  | case4 text comment cs r body rest hc hs _ ih =>
    have := ih h
    have := readComment_marks hc
    have := marks_skipGap hs
    rw [marks_cons] at this
    omega
  | case6 text comment cs r body rest hc hs _ _ ih =>
    have := ih h
    have := readQuoted_marks hc
    have := marks_skipGap hs
    rw [marks_append, marks_quoted] at *
    rw [marks_cons, show isMark '"' = true from rfl, if_pos rfl] at this
    omega
  | case7 text comment cs c r hs _ _ _ _ ih =>
    have hrest := ih h
    have := marks_skipGap hs
    rw [marks_append, marks_cons c [], marks_nil] at hrest
    rw [marks_cons] at this
    omega
  | case8 text comment cs c r hs _ _ _ hspecial ih =>
    have hrest := ih h
    have := marks_skipGap hs
    have ho : isOrdinary c = true := isOrdinary_iff.2 ⟨skipGap_head hs, by simpa using hspecial⟩
    have hrun : marks (c :: r) = marks ((c :: r).takeWhile isOrdinary) + marks (r.dropWhile isOrdinary) := by
      rw [← List.dropWhile_cons_of_pos ho, ← marks_append, List.takeWhile_append_dropWhile]
    rw [marks_append] at hrest
    omega

theorem readMailbox_marks {comment : Text} {p : Part} (h : readMailbox comment cs = .ok p) :
    marks p.text + marks p.rest ≤ marks cs := by
  unfold readMailbox at h
  split at h
  · rename_i text comment' rest hlocal
    have hlocal' : marks text + marks ('@' :: rest) ≤ marks [] + marks cs := readPart_marks hlocal
    have hdomain := readPart_marks h
    rw [marks_append, show marks ['@'] = 0 from rfl] at hdomain
    rw [marks_nil, marks_cons] at hlocal'
    omega
  · have hlocal := readPart_marks h
    rwa [marks_nil, Nat.zero_add] at hlocal

theorem readRoute_marks {comment c : Text} (h : readRoute comment cs = .ok (c, rest)) :
    marks rest ≤ marks cs := by
  fun_induction readRoute comment cs with
  | case1 => cases h
  | case2 comment r p hp ih =>
    have := ih h
    have := readPart_marks hp
    rw [marks_nil] at this
    rw [marks_cons]
    omega
  | case3 => cases h; exact Nat.le_refl _

theorem skipRoute_marks {comment c : Text} (h : skipRoute comment cs = .ok (c, rest)) :
    marks rest ≤ marks cs := by
  have hskip : marks (skipGap cs) ≤ marks cs := marks_of_suffix (List.dropWhile_suffix isGap)
  unfold skipRoute at h
  split at h
  · rename_i hs
    split at h
    · rename_i hroute
      cases h
      have := readRoute_marks hroute
      rw [hs] at hskip
      rw [marks_cons] at this
      omega
    · cases h
    · cases h
  · cases h
    exact hskip

theorem readAngle_marks {name : Option Text} {comment : Text} {a : Address}
    (h : readAngle name comment cs = .ok (a, rest)) :
    ∃ m, a.mailbox = some m ∧ marks m + marks rest ≤ marks cs := by
  obtain ⟨c, r, text, c', hroute, hmail, rfl⟩ := readAngle_eq_ok_iff.1 h
  refine ⟨_, rfl, ?_⟩
  have hangle : marks (angleMailbox text) = marks text := by
    unfold angleMailbox
    split
    · rename_i hempty
      rw [List.isEmpty_iff.1 hempty]
      rfl
    · rfl
  have hskip := skipRoute_marks hroute
  have hread : marks text + marks ('>' :: rest) ≤ marks r := readMailbox_marks hmail
  rw [marks_cons] at hread
  omega

theorem bareEntry?_marks {phrase comment : Text} {a : Address}
    (h : bareEntry? phrase comment = some a) : ∃ m, a.mailbox = some m ∧ marks m ≤ marks phrase := by
  obtain ⟨p, hmail, rfl⟩ := exists_of_bareEntry? h
  exact ⟨p.text, rfl, Nat.le_trans (Nat.le_add_right _ _) (readMailbox_marks hmail)⟩

end Address
end Recipients
