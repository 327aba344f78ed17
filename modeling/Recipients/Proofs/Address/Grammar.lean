import Recipients.Proofs.Address.Built

/-
  The grammar of the mailboxes that reading builds, character by character (`mailboxForm_iff_built`): a
  local part of plain characters and complete quoted strings and, after an at sign, a domain of plain
  characters. What could be taken for the end of a mailbox, or for the end of a line, stands between
  quotes in it (`MailboxForm.insideQuotes`).

  A backslash is a plain character outside quotes and protects nothing there, so a quote outside always
  opens a string, and where a string is open is settled from left to right.
-/

namespace Recipients
namespace Address

/-! ## The grammar -/

/-- A character that stands in a local part outside quotes. -/
def IsLocalCharacter (c : Char) : Prop := isOrdinary c = true ∨ c = '.' ∨ c = '\\'

def IsDomainCharacter (c : Char) : Prop :=
  isOrdinary c = true ∨ c = '.' ∨ c = '[' ∨ c = ']' ∨ c = '\\'

/-- Such characters, and quoted strings in which every quote and every backslash is escaped. -/
inductive LocalForm : Text → Prop
  | nil : LocalForm []
  | char {c : Char} {r : Text} (hc : IsLocalCharacter c) (hr : LocalForm r) : LocalForm (c :: r)
  | quote (s : Text) {r : Text} (hr : LocalForm r) : LocalForm (quoted s ++ r)

def DomainForm (d : Text) : Prop := ∀ c ∈ d, IsDomainCharacter c

inductive MailboxForm : Text → Prop
  | bare {t : Text} (ht : LocalForm t) : MailboxForm t
  | qualified {t d : Text} (ht : LocalForm t) (hd : DomainForm d) : MailboxForm (t ++ '@' :: d)

/-! ## What reading builds -/

theorem isTaken_local_iff {c : Char} : IsTaken localAllowed c ↔ IsLocalCharacter c := by
  constructor
  · rintro (ho | ⟨-, hin, hparen, hquote⟩)
    · exact .inl ho
    · simp only [localAllowed, List.mem_cons, List.not_mem_nil, or_false, hparen, hquote,
        false_or] at hin
      exact .inr hin
  · rintro (ho | rfl | rfl)
    · exact .inl ho
    all_goals exact .inr (by decide)

theorem isTaken_domain_iff {c : Char} : IsTaken domainAllowed c ↔ IsDomainCharacter c := by
  constructor
  · rintro (ho | ⟨-, hin, hparen, -⟩)
    · exact .inl ho
    · simp only [domainAllowed, List.mem_cons, List.not_mem_nil, or_false, hparen, false_or] at hin
      exact .inr hin
  · rintro (ho | rfl | rfl | rfl | rfl)
    · exact .inl ho
    all_goals exact .inr (by decide)

theorem localForm_iff_partOf {t : Text} : LocalForm t ↔ PartOf localAllowed t := by
  constructor
  · intro h
    induction h with
    | nil => exact .nil
    | char hc _ ih => exact .char (isTaken_local_iff.2 hc) ih
    | quote s _ ih => exact .quote (by decide) s ih
  · intro h
    induction h with
    | nil => exact .nil
    | char hc _ ih => exact .char (isTaken_local_iff.1 hc) ih
    | quote _ s _ ih => exact .quote s ih

/-- A domain has no quoted strings. -/
theorem domainForm_iff_partOf {d : Text} : DomainForm d ↔ PartOf domainAllowed d := by
  constructor
  · intro h
    exact .of_forall fun c hc => isTaken_domain_iff.2 (h c hc)
  · intro h
    induction h with
    | nil => exact fun _ hc => (nomatch hc)
    | char hc _ ih => exact List.forall_mem_cons.2 ⟨isTaken_domain_iff.1 hc, ih⟩
    | quote hin => exact absurd hin (by decide)

theorem mailboxForm_iff_built {m : Text} : MailboxForm m ↔ Built m := by
  constructor
  · intro h
    cases h with
    | bare ht => exact .bare (localForm_iff_partOf.1 ht)
    | qualified ht hd => exact .qualified (localForm_iff_partOf.1 ht) (domainForm_iff_partOf.1 hd)
  · intro h
    cases h with
    | bare ht => exact .bare (localForm_iff_partOf.2 ht)
    | qualified ht hd => exact .qualified (localForm_iff_partOf.2 ht) (domainForm_iff_partOf.2 hd)

/-! ## Between quotes -/

/-- What stands between `p` and `r` is inside a quoted string: `p` is a local part and the beginning of
    a string after it, and `r` begins with the rest of the string. -/
def InsideQuotes (p r : Text) : Prop :=
  ∃ t s s' u, LocalForm t ∧ p = t ++ '"' :: escape s ∧ r = escape s' ++ '"' :: u

/-- White space of header lines, or a character with a meaning between mailboxes. -/
def IsBoundary (c : Char) : Prop := isGap c = true ∨ c ∈ [',', ';', ':', '<', '>', '(', ')']

variable {c : Char} {p r t m : Text}

theorem IsBoundary.not_isOrdinary (h : IsBoundary c) : isOrdinary c = false := by
  have hspecial : ∀ c ∈ [',', ';', ':', '<', '>', '(', ')'], isOrdinary c = false :=
    Text.forall_mem_of_all (by decide)
  rcases h with hgap | hmem
  · simp [isOrdinary, hgap]
  · exact hspecial c hmem

theorem IsBoundary.ne (h : IsBoundary c) : c ∉ ['"', '\\', '@', '.', '[', ']'] := by
  intro hmem
  have hother : ∀ c ∈ ['"', '\\', '@', '.', '[', ']'],
      isGap c = false ∧ c ∉ [',', ';', ':', '<', '>', '(', ')'] :=
    Text.forall_mem_of_all (by decide)
  obtain ⟨hgap, hnot⟩ := hother c hmem
  rcases h with h | h
  · rw [hgap] at h
    cases h
  · exact hnot h

theorem IsBoundary.not_isDomainCharacter (h : IsBoundary c) : ¬ IsDomainCharacter c := by
  have hne := h.ne
  rintro (ho | rfl | rfl | rfl | rfl)
  · rw [h.not_isOrdinary] at ho
    cases ho
  all_goals exact hne (by decide)

theorem IsBoundary.not_isLocalCharacter (h : IsBoundary c) : ¬ IsLocalCharacter c := by
  rintro (ho | rfl | rfl)
  · exact h.not_isDomainCharacter (.inl ho)
  · exact h.not_isDomainCharacter (.inr (.inl rfl))
  · exact h.not_isDomainCharacter (.inr (.inr (.inr (.inr rfl))))

/-- A text that is parted at another character than its first one is parted behind the first one. -/
theorem exists_of_cons_eq_append {x : Char} (h : x :: t = p ++ c :: r) (hx : c ≠ x) :
    ∃ p', p = x :: p' ∧ t = p' ++ c :: r := by
  rcases List.cons_eq_append_iff.1 h with ⟨-, hc⟩ | hp
  · exact absurd (List.cons.inj hc).1 hx
  · exact hp

/-- A character that is not escaped parts the text as it parts the escaped text. -/
theorem escape_split {s : Text} (h : escape s = p ++ c :: r) (hslash : c ≠ '\\') (hquote : c ≠ '"') :
    ∃ s₁ s₂, p = escape s₁ ∧ r = escape s₂ := by
  induction s generalizing p with
  | nil => simp [escape] at h
  | cons d s ih =>
    rw [escape_cons] at h
    split at h
    · rename_i hd
      obtain ⟨p, rfl, hbehind⟩ := exists_of_cons_eq_append h hslash
      have hne : c ≠ d := by
        rcases hd with rfl | rfl
        · exact hslash
        · exact hquote
      obtain ⟨p, rfl, htail⟩ := exists_of_cons_eq_append hbehind hne
      obtain ⟨s₁, s₂, rfl, rfl⟩ := ih htail
      refine ⟨d :: s₁, s₂, ?_, rfl⟩
      rw [escape_cons, if_pos hd]
      rfl
    · rename_i hd
      rcases List.cons_eq_append_iff.1 h with ⟨rfl, hc⟩ | ⟨p, rfl, htail⟩
      · exact ⟨[], s, rfl, (List.cons.inj hc).2⟩
      · obtain ⟨s₁, s₂, rfl, rfl⟩ := ih htail
        refine ⟨d :: s₁, s₂, ?_, rfl⟩
        rw [escape_cons, if_neg hd]
        rfl

theorem LocalForm.insideQuotes (ht : LocalForm t) (h : t = p ++ c :: r) (hc : IsBoundary c) :
    InsideQuotes p r := by
  have hslash : c ≠ '\\' := by
    rintro rfl
    exact hc.ne (by decide)
  have hquote : c ≠ '"' := by
    rintro rfl
    exact hc.ne (by decide)
  induction ht generalizing p with
  | nil => simp at h
  | @char d t hd ht ih =>
    have hne : c ≠ d := by
      rintro rfl
      exact hc.not_isLocalCharacter hd
    obtain ⟨p, rfl, htail⟩ := exists_of_cons_eq_append h hne
    obtain ⟨t', s, s', u, ht', rfl, rfl⟩ := ih htail
    exact ⟨d :: t', s, s', u, .char hd ht', rfl, rfl⟩
  | @quote s t ht ih =>
    rw [quoted_append] at h
    obtain ⟨p, rfl, htail⟩ := exists_of_cons_eq_append h hquote
    -- The character stands in this string, or else behind it.
    rcases List.append_eq_append_iff.1 htail with ⟨w, rfl, hw⟩ | ⟨w, hs, hw⟩
    · obtain ⟨w, rfl, hbehind⟩ := exists_of_cons_eq_append hw hquote
      obtain ⟨t', s₁, s₂, u, ht', rfl, rfl⟩ := ih hbehind
      refine ⟨quoted s ++ t', s₁, s₂, u, .quote s ht', ?_, rfl⟩
      rw [List.append_assoc, quoted_append]
    · obtain ⟨w, rfl, rfl⟩ := exists_of_cons_eq_append hw hquote.symm
      obtain ⟨s₁, s₂, rfl, rfl⟩ := escape_split hs hslash hquote
      exact ⟨[], s₁, s₂, t, .nil, rfl, rfl⟩

theorem InsideQuotes.append (h : InsideQuotes p r) (w : Text) : InsideQuotes p (r ++ w) := by
  obtain ⟨t, s, s', u, ht, hp, rfl⟩ := h
  exact ⟨t, s, s', u ++ w, ht, hp, by rw [List.append_assoc, List.cons_append]⟩

/-- White space, line ends and the characters between mailboxes occur in a mailbox inside quotes only. -/
theorem MailboxForm.insideQuotes (hm : MailboxForm m) (h : m = p ++ c :: r) (hc : IsBoundary c) :
    InsideQuotes p r := by
  cases hm with
  | bare ht => exact ht.insideQuotes h hc
  | @qualified t d ht hd =>
    have hat : c ≠ '@' := by
      rintro rfl
      exact hc.ne (by decide)
    rcases List.append_eq_append_iff.1 h with ⟨w, -, hw⟩ | ⟨w, ht', hw⟩
    · -- Behind the local part come the at sign and the domain.
      obtain ⟨w, rfl, hbehind⟩ := exists_of_cons_eq_append hw hat
      have hmem : c ∈ d := by
        rw [hbehind]
        exact List.mem_append_right w List.mem_cons_self
      exact absurd (hd c hmem) hc.not_isDomainCharacter
    · obtain ⟨w, rfl, rfl⟩ := exists_of_cons_eq_append hw hat.symm
      exact (ht.insideQuotes ht' hc).append _

end Address
end Recipients
