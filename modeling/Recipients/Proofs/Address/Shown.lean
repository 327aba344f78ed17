import Recipients.Proofs.Address.Made
import Recipients.Proofs.AddressList.RoundTrip
import Recipients.Proofs.Book.Saved

/-
  Entries as they are shown, and back in wire form. Where the readable forms of domains have no marks
  of their own, what is shown of a well-formed entry is well formed (`WellFormed.shown`), and its wire
  form is the entry itself, but for capitals in the domain (`toWire_shown`).
-/

namespace Recipients

open Address (WellFormedMailbox IsDomainPart)

/-- What is assumed of the conversions of domains that are ASCII already. -/
structure Domain.Converter.KeepsMarks (c : Converter) : Prop where
  /-- The readable form of a domain without white space, and without special characters other than
      dots and brackets, has none either. -/
  readable : ∀ d r, IsDomainPart d → Text.isAscii d = true → c.toReadable d = some r → IsDomainPart r
  /-- The ASCII form of an ASCII domain differs from it in case only. -/
  ascii : ∀ d a, Text.isAscii d = true → c.toAscii d = some a → Text.alike a d = true

namespace Address

variable {policy sent : DomainPolicy} {a : Address} {m : Text}

theorem not_mem_of_isDomainPart {d : Text} (h : IsDomainPart d) : '@' ∉ d :=
  fun hat => absurd (h '@' hat) (by decide)

/-- A well-formed mailbox with a domain is the null mailbox, or it is well formed with every domain. -/
theorem WellFormedMailbox.cut (h : WellFormedMailbox m) {user d : Text}
    (hcut : Text.cutLast '@' m = some (user, d)) :
    d = [] ∨ (user ≠ [] ∧ IsDomainPart d ∧ ∀ r, IsDomainPart r → WellFormedMailbox (user ++ '@' :: r)) := by
  have hparts {t d' : Text} (hd' : IsDomainPart d') :
      Text.cutLast '@' (t ++ '@' :: d') = some (t, d') :=
    Text.cutLast_eq_some_iff.2 ⟨rfl, not_mem_of_isDomainPart hd'⟩
  cases h with
  | null =>
    cases hcut
    exact .inl rfl
  | bare ht =>
    have hnone : Text.cutLast '@' m = none :=
      Text.cutLast_eq_none_iff.2 fun hat => absurd (ht.2 '@' hat) (by decide)
    rw [hnone] at hcut
    cases hcut
  | qualified ht hd =>
    rw [hparts hd] at hcut
    cases hcut
    exact .inr ⟨ht.1, hd, fun r hr => .qualified ht hr⟩
  | quotedLocal s hd =>
    rw [hparts hd] at hcut
    cases hcut
    exact .inr ⟨List.cons_ne_nil _ _, hd, fun r hr => .quotedLocal s hr⟩

theorem WellFormedMailbox.domain (h : WellFormedMailbox m) {p : Text × Text}
    (hcut : Text.cutLast '@' m = some p) : IsDomainPart p.2 := by
  rcases h.cut hcut with hnil | ⟨-, hd, -⟩
  · rw [hnil]
    exact fun _ hc => (nomatch hc)
  · exact hd

/-- A well-formed mailbox is shown as it is, or it has another domain and the same beginning. -/
theorem WellFormedMailbox.toReadable_cases (hc : policy.converter.KeepsMarks)
    (h : WellFormedMailbox m) (hascii : Mailbox.HasAsciiDomain m) :
    Mailbox.toReadable policy m = m ∨
      WellFormedMailbox (Mailbox.toReadable policy m) ∧
        ∃ c r r', m = c :: r ∧ c ≠ '@' ∧ Mailbox.toReadable policy m = c :: r' := by
  obtain hm | ⟨user, d, r, -, hcut, hlabel, hr, -, -, hm⟩ := Mailbox.toReadable_cases policy m
  · exact .inl hm
  · obtain rfl | ⟨huser, hd, hother⟩ := h.cut hcut
    · cases hlabel
    · refine .inr ⟨hm ▸ hother r (hc.readable d r hd (hascii _ hcut) hr), ?_⟩
      have hsplit := (Text.cutLast_eq_some_iff.1 hcut).1
      have hnull : m ≠ ['@'] := by
        rintro rfl
        cases hcut
        exact huser rfl
      obtain ⟨c, t, rfl⟩ := List.exists_cons_of_ne_nil huser
      obtain ⟨c', r', hcons, hat⟩ := h.head hnull
      rw [hsplit] at hcons
      cases hcons
      exact ⟨c, _, _, hsplit, hat, hm⟩

/-- The entry as it is shown. -/
def shown (policy : DomainPolicy) (a : Address) : Address :=
  { a with mailbox := a.mailbox.map (Mailbox.toReadable policy) }

theorem isGroupMarker_shown (policy : DomainPolicy) (a : Address) :
    (a.shown policy).isGroupMarker = a.isGroupMarker := by
  simp [isGroupMarker, shown]

theorem isGroupEnd_shown (policy : DomainPolicy) (a : Address) :
    (a.shown policy).isGroupEnd = a.isGroupEnd := by
  simp [isGroupEnd, shown]

theorem WellFormed.shown (hc : policy.converter.KeepsMarks) (ha : a.WellFormed)
    (hascii : ∀ m ∈ a.mailbox, Mailbox.HasAsciiDomain m) : (a.shown policy).WellFormed := by
  cases ha with
  | terminator hg hm hp => exact .terminator hg (by simp [Address.shown, hm]) hp
  | marker hg hm hp => exact .marker hg (by simp [Address.shown, hm]) hp
  | recipient m hg hm hmail hp =>
    refine .recipient (Mailbox.toReadable policy m) hg (by simp [Address.shown, hm]) ?_ hp
    rcases hmail.toReadable_cases hc (hascii m hm) with h | ⟨h, -⟩
    · rwa [h]
    · exact h

/-- To show an entry is to write the entry that is shown. -/
theorem render_toReadable (hc : policy.converter.KeepsMarks) (ha : a.WellFormed)
    (hascii : ∀ m ∈ a.mailbox, Mailbox.HasAsciiDomain m) :
    a.render (Mailbox.toReadable policy) = (a.shown policy).write := by
  have hmailbox {m : Text} (hm : a.mailbox = some m) (hmail : WellFormedMailbox m) (named : Bool) :
      writeMailbox (Mailbox.toReadable policy) named m =
        writeMailbox id named (Mailbox.toReadable policy m) := by
    rcases hmail.toReadable_cases hc (hascii m hm) with h | ⟨-, c, r, r', rfl, hat, h⟩
    · simp [writeMailbox, h]
    · simp [writeMailbox, h, hat]
  cases ha with
  | terminator hg hm hp => simp [render, write, Address.shown, writtenName, hm, hg, hp]
  | marker hg hm hp => simp [render, write, Address.shown, writtenName, hm, hg]
  | recipient m hg hm hmail hp =>
    simp [render, write, Address.shown, writtenName, hm, hmailbox hm hmail]

/-- The same entry, but for the case of its domain. -/
structure SameButDomainCase (a w : Address) : Prop where
  group : w.group = a.group
  personal : w.personal = a.personal
  mailbox : Option.Rel Mailbox.SameButDomainCase a.mailbox w.mailbox

/-- An entry that has been shown and read has a wire form, which is the entry itself, but for the case
    of its domain. -/
theorem toWire_shown (hc : policy.converter.KeepsMarks) (hsame : sent.converter = policy.converter)
    (hencode : sent.encode = true) (ha : a.WellFormed)
    (hascii : ∀ m ∈ a.mailbox, Mailbox.HasAsciiDomain m) :
    ∃ w, (a.shown policy).unconverted.toWire sent = .ok w ∧ a.SameButDomainCase w := by
  cases ha with
  | terminator hg hm hp | marker hg hm hp =>
    refine ⟨(a.shown policy).unconverted, ?_, rfl, rfl, ?_⟩
    · simp [toWire, unconverted, Address.shown, hm]
    · simp [unconverted, Address.shown, hm]
  | recipient m hg hm hmail hp =>
    have hat : ∀ p ∈ Text.cutLast '@' m, ∀ r, policy.converter.toReadable p.2 = some r → '@' ∉ r :=
      fun p hcut r hr =>
        not_mem_of_isDomainPart (hc.readable p.2 r (hmail.domain hcut) (hascii m hm p hcut) hr)
    obtain ⟨w, hw, hcase⟩ := Mailbox.toWire_toReadable (hascii m hm) hsame hencode hat hc.ascii
    generalize hm' : Mailbox.toReadable policy m = m' at hw
    have hread : (a.shown policy).unconverted =
        { personal := a.personal, mailbox := some m', group := a.group } := by
      simp [unconverted, Address.shown, hm, hm']
    rw [hread]
    by_cases hlocal : '@' ∈ m'
    · refine ⟨{ personal := a.personal, mailbox := some w, group := a.group, form := some .wire },
        ?_, rfl, rfl, hm ▸ .some hcase⟩
      simp [toWire, hlocal, hw]
    · have hsame : w = m' := by
        rw [Mailbox.toWire, Text.cutLast_eq_none_iff.2 hlocal] at hw
        exact (Except.ok.inj hw).symm
      refine ⟨{ personal := a.personal, mailbox := some m', group := a.group }, ?_, rfl, rfl,
        hm ▸ .some (hsame ▸ hcase)⟩
      simp [toWire, hlocal]

end Address
end Recipients
