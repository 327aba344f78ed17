import Recipients.Proofs.Address.Built

/-
  What a reader finds in a text it also finds where more text follows. Brackets and quotes that have
  closed stay closed; only a run of ordinary characters could go on, so the text that follows is not
  to begin with one (`Stops`). `readAngle_append` is the lemma for a whole entry in angle brackets.
-/

namespace Recipients
namespace Address

variable {cs more t rest : Text}

/-! ## Tokens -/

/-- A reader has taken a pair of backslash and character where there is one. -/
theorem ne_backslash_of_last {c : Char} {r : Text}
    (hescape : ∀ (d : Char) (r' : Text), c = '\\' → ¬r = d :: r') (hlast : c = '\\' → ¬r = []) :
    c ≠ '\\' := by
  intro hc
  cases r with
  | nil => exact hlast hc rfl
  | cons d r' => exact hescape d r' hc rfl

theorem readComment_append {d : Nat} (h : readComment d cs = .ok (t, rest)) (more : Text) :
    readComment d (cs ++ more) = .ok (t, rest ++ more) := by
  fun_induction readComment d cs generalizing t with
  | case1 | case2 | case4 =>
    rename_i ih
    obtain ⟨u, hu, rfl⟩ := Found.cons_eq_ok.1 h
    simp only [List.cons_append, readComment, ih hu, Found.cons]
  | case3 r =>
    cases h
    simp only [List.cons_append, readComment]
  | case5 => cases h
  | case6 d c r hescape hopen hzero hsucc hlast ih =>
    obtain ⟨u, hu, rfl⟩ := Found.cons_eq_ok.1 h
    have hplain := ne_backslash_of_last hescape hlast
    rw [List.cons_append, readComment]
    · rw [ih hu, Found.cons]
    all_goals simp_all
  | case7 => cases h

theorem readQuoted_append (h : readQuoted cs = .ok (t, rest)) (more : Text) :
    readQuoted (cs ++ more) = .ok (t, rest ++ more) := by
  fun_induction readQuoted cs generalizing t with
  | case1 c r ih =>
    obtain ⟨u, hu, rfl⟩ := Found.cons_eq_ok.1 h
    simp only [List.cons_append, readQuoted, ih hu, Found.cons]
  | case2 r =>
    cases h
    simp only [List.cons_append, readQuoted]
  | case3 => cases h
  | case4 c r hescape hclose hlast ih =>
    obtain ⟨u, hu, rfl⟩ := Found.cons_eq_ok.1 h
    have hplain := ne_backslash_of_last hescape hlast
    rw [List.cons_append, readQuoted]
    · rw [ih hu, Found.cons]
    all_goals simp_all
  | case5 => cases h

theorem readToken_append {c : Char} {r : Text} (h : readToken (c :: r) = .ok (t, rest))
    (hmore : Stops more) : readToken (c :: r ++ more) = .ok (t, rest ++ more) := by
  by_cases hparen : c = '('
  · subst hparen
    have hbody : readComment 0 r = .ok (t, rest) := h
    exact readComment_append hbody more
  by_cases hquote : c = '"'
  · subst hquote
    have hbody : readQuoted r = .ok (t, rest) := h
    exact readQuoted_append hbody more
  cases hspecial : isSpecial c with
  | true =>
    rw [readToken_special hspecial hparen hquote] at h
    cases h
    exact readToken_special hspecial hparen hquote _
  | false =>
    cases hgap : isGap c with
    | true =>
      have hstop : isOrdinary c = false := by simp [isOrdinary, hgap]
      simp only [List.cons_append, readToken, hparen, hquote, hspecial, ↓reduceIte, Bool.false_eq_true,
        List.takeWhile_cons, List.dropWhile_cons, hstop] at h ⊢
      cases h
      rfl
    | false =>
      obtain ⟨w, u, hsplit, hne, hw, hu, -, -⟩ := exists_run (isOrdinary_iff.2 ⟨hgap, hspecial⟩) r
      rw [hsplit, readToken_run hne hw hu] at h
      cases h
      rw [hsplit, List.append_assoc, readToken_run hne hw (hu.append hmore)]

/-! ## Parts of a mailbox -/

theorem skipGap_append {c : Char} {r : Text} (h : skipGap cs = c :: r) (more : Text) :
    skipGap (cs ++ more) = c :: (r ++ more) := by
  rw [skipGap, List.dropWhile_append, ← skipGap, h]
  rfl

theorem readPart_append {allowed text comment : Text} {p : Part}
    (h : readPart allowed text comment cs = .ok p) (hrest : p.rest ≠ []) (hmore : Stops more) :
    readPart allowed text comment (cs ++ more) = .ok { p with rest := p.rest ++ more } := by
  fun_induction readPart allowed text comment cs with
  | case1 =>
    rw [← Except.ok.inj h] at hrest
    exact absurd rfl hrest
  | case2 text comment cs c r hs hstop =>
    rw [Bool.and_eq_true, Bool.not_eq_true', ← Bool.not_eq_true, List.contains_iff_mem] at hstop
    rw [readPart_skipGap, skipGap_append hs, readPart_stop hstop.1 hstop.2, ← Except.ok.inj h]
    rfl
  | case3 | case5 => cases h
  | case4 text comment cs r body rest hc hs hin ih =>
    rw [readPart_skipGap, skipGap_append hs,
      readPart_comment (mem_of_not_stop rfl hin), readComment_append hc more]
    exact ih h
  | case6 text comment cs r body rest hc hs hin _ ih =>
    rw [readPart_skipGap, skipGap_append hs,
      readPart_quote (mem_of_not_stop rfl hin), readQuoted_append hc more]
    exact ih h
  | case7 text comment cs c r hs hin hparen hquote hspecial ih =>
    rw [readPart_skipGap, skipGap_append hs,
      readPart_special hspecial (mem_of_not_stop hspecial hin) hparen hquote, ih h]
  | case8 text comment cs c r hs hin hparen hquote hspecial ih =>
    obtain ⟨w, u, hsplit, hne, hw, hu, hw', hu'⟩ :=
      exists_run (isOrdinary_iff.2 ⟨skipGap_head hs, by simpa using hspecial⟩) r
    rw [readPart_skipGap, skipGap_append hs, ← List.cons_append, hsplit, List.append_assoc,
      readPart_run hne hw (hu.append hmore), hw', hu', ih h]

/-! ## Mailboxes and angle brackets -/

theorem readMailbox_append {comment : Text} {p : Part} (h : readMailbox comment cs = .ok p)
    (hrest : p.rest ≠ []) (hmore : Stops more) :
    readMailbox comment (cs ++ more) = .ok { p with rest := p.rest ++ more } := by
  unfold readMailbox at h ⊢
  split at h
  · rename_i text comment' r hlocal
    rw [readPart_append hlocal (List.cons_ne_nil _ _) hmore]
    exact readPart_append h hrest hmore
  · rename_i hlocal
    rw [readPart_append h hrest hmore]
    obtain ⟨text, comment', rest⟩ := p
    cases rest with
    | nil => exact absurd rfl hrest
    | cons c r =>
      split
      · rename_i hat
        cases hat
        exact absurd h (hlocal text comment' r)
      · rfl

theorem readRoute_append {comment c : Text} (h : readRoute comment cs = .ok (c, rest))
    (hrest : rest ≠ []) (hmore : Stops more) :
    readRoute comment (cs ++ more) = .ok (c, rest ++ more) := by
  fun_induction readRoute comment cs with
  | case1 => cases h
  | case2 comment r p hp ih =>
    have hne : p.rest ≠ [] := by
      intro hnil
      rw [hnil, readRoute] at h
      · cases h
        exact hrest rfl
      · intro _ h'
        cases h'
    rw [List.cons_append, readRoute, readPart_append hp hne hmore]
    exact ih h
  | case3 comment cs hat =>
    cases h
    obtain ⟨d, r, rfl⟩ := List.exists_cons_of_ne_nil hrest
    rw [readRoute]
    intro r' h'
    cases h'
    exact hat r rfl

theorem skipRoute_append {comment c : Text} (h : skipRoute comment cs = .ok (c, rest))
    (hrest : rest ≠ []) (hmore : Stops more) :
    skipRoute comment (cs ++ more) = .ok (c, rest ++ more) := by
  unfold skipRoute at h ⊢
  cases hs : skipGap cs with
  | nil =>
    rw [hs] at h
    cases h
    exact absurd rfl hrest
  | cons d r =>
    rw [hs] at h
    rw [skipGap_append hs]
    by_cases hat : d = '@'
    · subst hat
      simp only at h ⊢
      split at h
      · rename_i hroute
        cases h
        rw [← List.cons_append, readRoute_append hroute (List.cons_ne_nil _ _) hmore]
        rfl
      · cases h
      · cases h
    · split at h
      · rename_i heq
        cases heq
        exact absurd rfl hat
      · cases h
        split
        · rename_i heq
          cases heq
          exact absurd rfl hat
        · rfl

theorem readAngle_append {name : Option Text} {comment : Text} {a : Address}
    (h : readAngle name comment cs = .ok (a, rest)) (hmore : Stops more) :
    readAngle name comment (cs ++ more) = .ok (a, rest ++ more) := by
  rw [readAngle_eq_ok_iff] at h ⊢
  obtain ⟨c, r, text, c', hroute, hmail, ha⟩ := h
  have hne : r ≠ [] := by
    rintro rfl
    have hnil : readMailbox c [] = .ok ⟨[], c, []⟩ := readMailbox_built (.bare .nil) ends_nil c
    rw [hnil] at hmail
    cases hmail
  exact ⟨c, r ++ more, text, c', skipRoute_append hroute hne hmore,
    readMailbox_append hmail (List.cons_ne_nil _ _) hmore, ha⟩

/-! ## What does not close -/

theorem Found.cons_eq_error {c : Char} {f : Found} {e : ParseError} :
    f.cons c = .error e ↔ f = .error e := by
  cases f <;> simp [Found.cons]

theorem readComment_of_not_mem {d : Nat} (h : ')' ∉ cs) : readComment d cs = .error .mismatchedParen := by
  fun_induction readComment d cs with
  | case1 | case2 | case6 =>
    rename_i ih
    rw [ih (by simp_all)]
    rfl
  | case3 | case4 => exact absurd List.mem_cons_self h
  | case5 | case7 => rfl

theorem readQuoted_of_not_mem (h : '"' ∉ cs) : readQuoted cs = .error .mismatchedQuote := by
  fun_induction readQuoted cs with
  | case1 | case4 =>
    rename_i ih
    rw [ih (by simp_all)]
    rfl
  | case2 => exact absurd List.mem_cons_self h
  | case3 | case5 => rfl

variable {e : ParseError}

/-- A comment stays open where the text that follows does not close it. -/
theorem readComment_append_error {d : Nat} (h : readComment d cs = .error e) (hmore : ')' ∉ more) :
    readComment d (cs ++ more) = .error e := by
  fun_induction readComment d cs with
  | case1 | case2 | case4 =>
    rename_i ih
    simp only [List.cons_append, readComment, ih (Found.cons_eq_error.1 h), Found.cons]
  | case3 => cases h
  | case5 d =>
    cases h
    exact readComment_of_not_mem (by simp [hmore])
  | case6 d c r hescape hopen hzero hsucc hlast ih =>
    have hplain := ne_backslash_of_last hescape hlast
    rw [List.cons_append, readComment]
    · rw [ih (Found.cons_eq_error.1 h), Found.cons]
    all_goals simp_all
  | case7 d =>
    cases h
    exact readComment_of_not_mem hmore

theorem readQuoted_append_error (h : readQuoted cs = .error e) (hmore : '"' ∉ more) :
    readQuoted (cs ++ more) = .error e := by
  fun_induction readQuoted cs with
  | case1 c r ih =>
    simp only [List.cons_append, readQuoted, ih (Found.cons_eq_error.1 h), Found.cons]
  | case2 => cases h
  | case3 =>
    cases h
    exact readQuoted_of_not_mem (by simp [hmore])
  | case4 c r hescape hclose hlast ih =>
    have hplain := ne_backslash_of_last hescape hlast
    rw [List.cons_append, readQuoted]
    · rw [ih (Found.cons_eq_error.1 h), Found.cons]
    all_goals simp_all
  | case5 =>
    cases h
    exact readQuoted_of_not_mem hmore

theorem readPart_append_error {allowed text comment : Text}
    (h : readPart allowed text comment cs = .error e) (hparen : ')' ∉ more) (hquote : '"' ∉ more)
    (hmore : Stops more) : readPart allowed text comment (cs ++ more) = .error e := by
  fun_induction readPart allowed text comment cs with
  | case1 | case2 => cases h
  | case3 text comment cs r e' hc hs hin =>
    cases h
    rw [readPart_skipGap, skipGap_append hs, readPart_comment (mem_of_not_stop rfl hin),
      readComment_append_error hc hparen]
  | case4 text comment cs r body rest hc hs hin ih =>
    rw [readPart_skipGap, skipGap_append hs, readPart_comment (mem_of_not_stop rfl hin),
      readComment_append hc more]
    exact ih h
  | case5 text comment cs r e' hc hs hin =>
    cases h
    rw [readPart_skipGap, skipGap_append hs, readPart_quote (mem_of_not_stop rfl hin),
      readQuoted_append_error hc hquote]
  | case6 text comment cs r body rest hc hs hin _ ih =>
    rw [readPart_skipGap, skipGap_append hs, readPart_quote (mem_of_not_stop rfl hin),
      readQuoted_append hc more]
    exact ih h
  | case7 text comment cs c r hs hin hparen' hquote' hspecial ih =>
    rw [readPart_skipGap, skipGap_append hs,
      readPart_special hspecial (mem_of_not_stop hspecial hin) hparen' hquote', ih h]
  | case8 text comment cs c r hs hin hparen' hquote' hspecial ih =>
    obtain ⟨w, u, hsplit, hne, hw, hu, hw', hu'⟩ :=
      exists_run (isOrdinary_iff.2 ⟨skipGap_head hs, by simpa using hspecial⟩) r
    rw [readPart_skipGap, skipGap_append hs, ← List.cons_append, hsplit, List.append_assoc,
      readPart_run hne hw (hu.append hmore), hw', hu', ih h]

theorem readMailbox_append_error {comment : Text} (h : readMailbox comment cs = .error e)
    (hparen : ')' ∉ more) (hquote : '"' ∉ more) (hmore : Stops more) :
    readMailbox comment (cs ++ more) = .error e := by
  unfold readMailbox at h ⊢
  split at h
  · rename_i hlocal
    rw [readPart_append hlocal (List.cons_ne_nil _ _) hmore]
    exact readPart_append_error h hparen hquote hmore
  · rw [readPart_append_error h hparen hquote hmore]

theorem readBare_append_error {phrase comment : Text} (h : readBare phrase comment = .error e)
    (hparen : ')' ∉ more) (hquote : '"' ∉ more) (hmore : Stops more) :
    readBare (phrase ++ more) comment = .error e := by
  unfold readBare at h ⊢
  cases hmail : readMailbox comment phrase with
  | error e' =>
    rw [hmail] at h
    rw [readMailbox_append_error hmail hparen hquote hmore]
    exact h
  | ok p =>
    obtain ⟨text, c, rest⟩ := p
    rw [hmail] at h
    cases rest with
    | nil => cases h
    | cons d r =>
      rw [readMailbox_append hmail (List.cons_ne_nil _ _) hmore]
      simp only [List.cons_append] at h ⊢
      split at h
      · cases h
      · cases h
      · cases h
      · split
        all_goals simp_all

/-- Words that are no entry are none either with text after them that closes nothing. -/
theorem bareEntry?_append_eq_none {phrase comment : Text} (h : bareEntry? phrase comment = none)
    (hparen : ')' ∉ more) (hquote : '"' ∉ more) (hmore : Stops more) :
    bareEntry? (phrase ++ more) comment = none := by
  obtain ⟨e, herror⟩ := bareEntry?_eq_none_iff.1 h
  exact bareEntry?_eq_none_iff.2 ⟨e, readBare_append_error herror hparen hquote hmore⟩

theorem mailbox_of_bareEntry? {phrase comment : Text} {a : Address}
    (h : bareEntry? phrase comment = some a) : ∃ m, a.mailbox = some m := by
  obtain ⟨p, _, rfl⟩ := exists_of_bareEntry? h
  exact ⟨p.text, rfl⟩

end Address
end Recipients
