import Recipients.Proofs.AddressList.RoundTrip
import Recipients.Proofs.Text

/-
  A written list as text: which characters it has (`mem_write`), how it ends (`write_getLast?`),
  and that it may be given where a person types addresses (`parseFreeOnto_write`).
-/

namespace Recipients

open Address (isGap WellFormedName WellFormedMailbox IsLocalPart IsDomainPart)

/-! ## Characters -/

namespace Address

/-- The characters that writing adds to names and mailboxes. -/
def punctuation : Text := ['"', '\\', ':', ' ', ';', '<', '>', ',']

theorem mem_quotedFor {marks t : Text} {c : Char} (hc : c ∈ quotedFor marks t) :
    c ∈ punctuation ∨ c ∈ t := by
  unfold quotedFor at hc
  split at hc
  · simp only [quoted, escape, List.cons_append, List.mem_cons, List.mem_append, List.mem_flatMap,
      List.not_mem_nil, or_false] at hc
    rcases hc with rfl | ⟨d, hd, hc⟩ | rfl
    · exact .inl (by decide)
    · split at hc
      · simp only [List.mem_cons, List.not_mem_nil, or_false] at hc
        rcases hc with rfl | rfl
        · exact .inl (by decide)
        · exact .inr hd
      · rw [List.mem_singleton.1 hc]
        exact .inr hd
    · exact .inl (by decide)
  · exact .inr hc

theorem mem_writeMailbox {named : Bool} {m : Text} {c : Char} (hc : c ∈ writeMailbox id named m) :
    c ∈ punctuation ∨ c ∈ m := by
  have htext : c ∈ (if m = ['@'] then [] else m) → c ∈ m := by
    intro h
    split at h
    · cases h
    · exact h
  unfold writeMailbox at hc
  simp only [id] at hc
  split at hc
  · simp only [List.cons_append, List.mem_cons, List.mem_append, List.not_mem_nil, or_false] at hc
    rcases hc with rfl | hc | rfl
    · exact .inl (by decide)
    · exact .inr (htext hc)
    · exact .inl (by decide)
  · exact .inr (htext hc)

/-- The character occurs in the name or in the mailbox. -/
def Holds (a : Address) (c : Char) : Prop := (∃ n ∈ a.personal, c ∈ n) ∨ ∃ m ∈ a.mailbox, c ∈ m

theorem mem_writtenName {a : Address} {n : Text} {c : Char}
    (hn : a.writtenName.map (quotedFor specials) = some n) (hc : c ∈ n) :
    c ∈ punctuation ∨ a.Holds c := by
  obtain ⟨p, hp, rfl⟩ := Option.map_eq_some_iff.1 hn
  rw [writtenName, Option.filter_eq_some_iff] at hp
  exact (mem_quotedFor hc).imp_right fun h => .inl ⟨p, hp.1, h⟩

/-- A character that is written comes from the name or the mailbox, or it is punctuation. -/
theorem mem_write {a : Address} {c : Char} (hc : c ∈ a.write) : c ∈ punctuation ∨ a.Holds c := by
  have hmail {named : Bool} {m : Text} (hm : a.mailbox = some m) (hc : c ∈ writeMailbox id named m) :
      c ∈ punctuation ∨ a.Holds c :=
    (mem_writeMailbox hc).imp_right fun h => .inr ⟨m, hm, h⟩
  have hmark : ∀ d ∈ [';', ':', ' '], d ∈ punctuation := Text.forall_mem_of_all (by decide)
  unfold write render at hc
  split at hc
  · split at hc
    · rcases List.mem_append.1 hc with hc | hc
      · cases hn : a.writtenName.map (quotedFor specials) with
        | none =>
          rw [hn] at hc
          cases hc
        | some n =>
          rw [hn] at hc
          exact mem_writtenName hn hc
      · exact .inl (hmark c (List.mem_cons_of_mem _ hc))
    · cases hn : a.writtenName.map (quotedFor specials) with
      | none =>
        rw [hn, Option.getD_none, List.mem_singleton] at hc
        exact .inl (hmark c (hc ▸ List.mem_cons_self))
      | some n =>
        rw [hn] at hc
        exact mem_writtenName hn hc
  · rename_i m hm
    cases hn : a.writtenName.map (quotedFor specials) with
    | none =>
      rw [hn] at hc
      exact hmail hm hc
    | some n =>
      rw [hn] at hc
      rcases List.mem_append.1 hc with hc | hc
      · exact mem_writtenName hn hc
      · rcases List.mem_cons.1 hc with rfl | hc
        · exact .inl (by decide)
        · exact hmail hm hc

end Address

namespace AddressList

theorem mem_separator {a : Address} {l : AddressList} {c : Char} (hc : c ∈ separator a l) :
    c ∈ Address.punctuation := by
  rcases separator_cases a l with h | ⟨h, _⟩
  · rw [h] at hc
    exact Text.forall_mem_of_all (by decide) c hc
  · rw [h] at hc
    cases hc

theorem mem_write {l : AddressList} {c : Char} (hc : c ∈ write l) :
    c ∈ Address.punctuation ∨ ∃ a ∈ l, a.Holds c := by
  induction l with
  | nil => cases hc
  | cons a l ih =>
    rw [write_cons, List.mem_append, List.mem_append] at hc
    rcases hc with hc | hc | hc
    · exact (Address.mem_write hc).imp_right fun h => ⟨a, List.mem_cons_self, h⟩
    · exact .inl (mem_separator hc)
    · exact (ih hc).imp_right fun ⟨b, hb, h⟩ => ⟨b, List.mem_cons_of_mem a hb, h⟩

end AddressList

/-! ## Endings -/

namespace Address

theorem WellFormedMailbox.getLast? {m : Text} (h : WellFormedMailbox m) :
    ∃ c, m.getLast? = some c ∧ isGap c = false := by
  have hlast {s t : Text} (hne : t ≠ []) (ht : ∀ c ∈ t, isGap c = false) :
      ∃ c, (s ++ t).getLast? = some c ∧ isGap c = false :=
    ⟨t.getLast hne, Text.getLast?_append_of_eq_some (List.getLast?_eq_some_getLast hne) s,
      ht _ (List.getLast_mem hne)⟩
  have hdomain {d : Text} (hd : IsDomainPart d) : ∀ c ∈ '@' :: d, isGap c = false :=
    fun c hc => (AddressList.Draft.isWordStart_of_isDomainPart hd c hc).1
  cases h with
  | null => exact ⟨'@', rfl, rfl⟩
  | bare ht =>
    rw [← List.nil_append m]
    exact hlast ht.1 fun c hc => (AddressList.Draft.isWordStart_of_isLocalPart ht c hc).1
  | qualified ht hd => exact hlast (List.cons_ne_nil _ _) (hdomain hd)
  | quotedLocal s hd => exact hlast (List.cons_ne_nil _ _) (hdomain hd)

/-- A mailbox without brackets and without quotes has no white space. -/
theorem WellFormedMailbox.plain {m : Text} (h : WellFormedMailbox m) (hnull : m ≠ ['@'])
    (hquote : '"' ∉ m) : m ≠ [] ∧ ∀ c ∈ m, isGap c = false := by
  obtain ⟨c, r, hcons, _⟩ := h.head hnull
  refine ⟨by rw [hcons]; exact List.cons_ne_nil c r, ?_⟩
  cases h with
  | null => exact absurd rfl hnull
  | bare ht => exact fun c hc => (AddressList.Draft.isWordStart_of_isLocalPart ht c hc).1
  | qualified ht hd =>
    exact List.forall_mem_append.2
      ⟨fun c hc => (AddressList.Draft.isWordStart_of_isLocalPart ht c hc).1,
        fun c hc => (AddressList.Draft.isWordStart_of_isDomainPart hd c hc).1⟩
  | quotedLocal s hd => exact absurd List.mem_cons_self hquote

/-- No written entry ends in a carriage return. -/
theorem WellFormed.write_getLast? {a : Address} (ha : a.WellFormed) :
    ∃ c, a.write.getLast? = some c ∧ c ≠ '\r' := by
  have hbracketed (m : Text) : (writeMailbox id true m).getLast? = some '>' :=
    List.getLast?_concat
  cases ha with
  | terminator hg hm hp =>
    rw [AddressList.write_terminator hg hm hp]
    exact ⟨';', rfl, by decide⟩
  | marker hg hm hp =>
    refine ⟨' ', ?_, by decide⟩
    cases hname : a.personal with
    | none =>
      rw [AddressList.write_marker hg hm hname]
      rfl
    | some n =>
      rw [AddressList.write_named_marker hg hm hname (hp n hname).1]
      exact Text.getLast?_append_of_eq_some rfl _
  | recipient m hg hm hmail hp =>
    cases hname : a.personal with
    | none =>
      rw [AddressList.write_recipient hm hname]
      by_cases hnull : m = ['@']
      · rw [hnull, AddressList.writeMailbox_null]
        exact ⟨'>', hbracketed ['@'], by decide⟩
      · rw [AddressList.writeMailbox_bare hmail hnull]
        obtain ⟨c, hc, hgap⟩ := hmail.getLast?
        refine ⟨c, hc, ?_⟩
        rintro rfl
        cases hgap
    | some n =>
      refine ⟨'>', ?_, by decide⟩
      rw [AddressList.write_named_recipient hm hname (hp n hname).1]
      exact Text.getLast?_append_of_eq_some
        (Text.getLast?_append_of_eq_some (hbracketed m) [' ']) _

end Address

namespace AddressList

theorem write_getLast? {l : AddressList} (hl : l.WellFormed) (hne : l ≠ []) :
    ∃ c, (write l).getLast? = some c ∧ c ≠ '\r' := by
  induction l with
  | nil => exact absurd rfl hne
  | cons a l ih =>
    have hl' : AddressList.WellFormed l := fun b hb => hl b (List.mem_cons_of_mem a hb)
    rw [write_cons]
    by_cases hnil : l = []
    · subst hnil
      rw [show separator a [] ++ write [] = [] from rfl, List.append_nil]
      exact (hl a List.mem_cons_self).write_getLast?
    · obtain ⟨c, hlast, hc⟩ := ih hl' hnil
      refine ⟨c, ?_, hc⟩
      rw [← List.append_assoc]
      exact Text.getLast?_append_of_eq_some hlast _

/-! ## Free text -/

/-- A written list without structural characters is a single bare mailbox. -/
theorem write_plain {l : AddressList} (hl : l.WellFormed) (hcount : 0 < l.countRecipients)
    (hplain : ∀ c ∈ write l, c ∉ structural) : write l ≠ [] ∧ ∀ c ∈ write l, isGap c = false := by
  cases l with
  | nil => cases hcount
  | cons a l =>
    rw [write_cons] at hplain ⊢
    obtain ⟨hentry, hrest⟩ := List.forall_mem_append.1 hplain
    cases hl a List.mem_cons_self with
    | terminator hg hm hp =>
      rw [write_terminator hg hm hp] at hentry
      exact absurd (by decide) (hentry ';' List.mem_cons_self)
    | marker hg hm hp =>
      refine absurd (by decide) (hentry ':' ?_)
      cases hname : a.personal with
      | none => simp [write_marker hg hm hname]
      | some n => simp [write_named_marker hg hm hname (hp n hname).1]
    | recipient m hg hm hmail hp =>
      cases hname : a.personal with
      | some n =>
        refine absurd (by decide) (hentry '<' ?_)
        simp [write_named_recipient hm hname (hp n hname).1, Address.writeMailbox]
      | none =>
        rw [write_recipient hm hname] at hentry ⊢
        by_cases hnull : m = ['@']
        · rw [hnull] at hentry
          exact absurd (by decide) (hentry '<' List.mem_cons_self)
        · rw [writeMailbox_bare hmail hnull] at hentry ⊢
          have hnone : separator a l ++ write l = [] := by
            rcases separator_cases a l with hsep | ⟨hsep, rfl | hmarker | ⟨t, ht⟩⟩
            · rw [hsep] at hrest
              exact absurd (by decide) (hrest ',' List.mem_cons_self)
            · rw [hsep]
              rfl
            · simp [Address.isGroupMarker, hg] at hmarker
            · rw [hsep, ht] at hrest
              exact absurd (by decide) (hrest ';' List.mem_cons_self)
          rw [hnone, List.append_nil]
          exact hmail.plain hnull fun h => hentry '"' h (by decide)

/-- A list with a recipient may be read as free text, also with spaces after it. -/
theorem parseFreeOnto_write {l : AddressList} (hl : l.WellFormed) (hcount : 0 < l.countRecipients)
    {gaps : Text} (hgaps : gaps = [] ∨ gaps = [' ']) :
    parseFreeOnto [] (write l ++ gaps) = (l.map Address.unconverted, .ok l.countRecipients) := by
  have hgap : ∀ c ∈ gaps, isGap c = true ∧ c ∉ structural := by
    rcases hgaps with rfl | rfl
    · exact fun _ h => (nomatch h)
    · exact Text.forall_mem_of_all (by decide)
  unfold parseFreeOnto
  split
  · exact parseOnto_write_gaps hl fun c hc => (hgap c hc).1
  · rename_i hplain
    have hnone : ∀ c ∈ write l, c ∉ structural := by
      intro c hc hs
      refine hplain (List.any_eq_true.2 ⟨c, List.mem_append_left gaps hc, ?_⟩)
      rwa [List.contains_iff_mem]
    obtain ⟨hne, hnogap⟩ := write_plain hl hcount hnone
    have hsep : ∀ c ∈ write l, (c == ' ' || c == '\t') = false := by
      intro c hc
      have := hnogap c hc
      simp only [isGap, Bool.or_eq_false_iff] at this
      simp [this]
    have hword : Text.stretches (fun c => c == ' ' || c == '\t') (write l ++ gaps) = [write l] := by
      rcases hgaps with rfl | rfl
      · rw [List.append_nil, Text.stretches_of_forall hne hsep]
      · rw [Text.stretches_append rfl, Text.stretches_of_forall hne hsep]
        rfl
    have hread : parseOnto [] (write l) = (l.map Address.unconverted, .ok l.countRecipients) := by
      rw [← parseOnto_write_gaps hl (fun c (h : c ∈ []) => (nomatch h)), List.append_nil]
    simp only [hword, parseWordsOnto, hread, Nat.zero_add]

end AddressList
end Recipients
