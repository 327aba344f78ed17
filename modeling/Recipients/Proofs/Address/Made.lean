import Recipients.Proofs.AddressList.Parsed
import Recipients.Proofs.Mailbox

/-
  Entries as they come about, and the form that they are known to be in. An entry that is known to
  be in wire form has an ASCII domain, however it came about (`Made.hasAsciiDomain`), so passing it
  over when a list is brought into wire form loses nothing (`toWire_eq_map`, `isWire_of_toWire`).
-/

namespace Recipients

variable {policy : DomainPolicy}

namespace Address

/-- An entry as it comes about: made afresh, given another name or mailbox, and converted in either
    direction, each time with whatever conversions are wanted then. -/
inductive Made : Address → Prop
  | recipient (personal : Option Text) (mailbox : Text) : Made { personal, mailbox := some mailbox }
  | marker (name : Text) : Made (groupMarker name)
  | terminator : Made groupEnd
  | setPersonal {a : Address} (h : Made a) (personal : Option Text) : Made (a.setPersonal personal)
  | setMailbox {a : Address} (h : Made a) (mailbox : Option Text) : Made (a.setMailbox mailbox)
  | toWire {a w : Address} {policy : DomainPolicy} (h : Made a)
      (hp : policy.converter.GivesAscii) (hw : a.toWire policy = .ok w) : Made w
  | toReadable {a : Address} (h : Made a) (policy : DomainPolicy) : Made (a.toReadable policy).1

theorem Parsed.made {a : Address} (h : a.Parsed) : a.Made := by
  cases h with
  | terminator => exact .terminator
  | marker n => exact .marker n
  | recipient => exact .recipient _ _

/-- All that bringing an entry into wire form can do. -/
theorem toWire_cases {a w : Address} (h : a.toWire policy = .ok w) :
    (w = a ∧ (a.form = some .wire ∨ ∀ m ∈ a.mailbox, '@' ∉ m)) ∨
      ∃ m m', a.mailbox = some m ∧ Mailbox.toWire policy m = .ok m' ∧
        w = { a with mailbox := some m', form := some .wire } := by
  unfold toWire at h
  split at h
  · rename_i m hm
    split at h
    · rename_i hkept
      refine .inl ⟨(Except.ok.inj h).symm, ?_⟩
      simpa [hm, or_comm] using hkept
    · split at h
      · rename_i m' hm'
        exact .inr ⟨m, m', hm, hm', (Except.ok.inj h).symm⟩
      · cases h
  · rename_i hnone
    exact .inl ⟨(Except.ok.inj h).symm, .inr (by simp [hnone])⟩

/-- All that bringing an entry into readable form can do. -/
theorem toReadable_cases (a : Address) (policy : DomainPolicy) :
    (a.toReadable policy = (a, false) ∧ (a.form = some .readable ∨ ∀ m ∈ a.mailbox, '@' ∉ m)) ∨
      ∃ m, a.mailbox = some m ∧ '@' ∈ m ∧ a.form ≠ some .readable ∧
        a.toReadable policy =
          ({ a with mailbox := some (Mailbox.toReadable policy m), form := some .readable },
            Mailbox.toReadable policy m != m) := by
  unfold toReadable
  split
  · rename_i m hm
    split
    · rename_i hkept
      refine .inl ⟨rfl, ?_⟩
      simpa [hm] using hkept
    · rename_i hnew
      simp only [Bool.or_eq_true, beq_iff_eq, Bool.not_eq_true', not_or, Bool.not_eq_false,
        List.contains_iff_mem] at hnew
      exact .inr ⟨m, hm, hnew.2, hnew.1, rfl⟩
  · rename_i hnone
    exact .inl ⟨rfl, .inr (by simp [hnone])⟩

/-- An entry that is known to be in wire form has an ASCII domain or none. -/
theorem Made.hasAsciiDomain {a : Address} (h : a.Made) (hform : a.form = some .wire) :
    ∀ m ∈ a.mailbox, Mailbox.HasAsciiDomain m := by
  induction h with
  | recipient | marker | terminator => cases hform
  | setPersonal _ _ ih => exact ih hform
  | setMailbox => cases hform
  | toWire _ hp hw ih =>
    obtain ⟨rfl, -⟩ | ⟨m, m', -, hm', rfl⟩ := toWire_cases hw
    · exact ih hform
    · rintro m ⟨⟩
      exact Mailbox.hasAsciiDomain_of_toWire hp hm'
  | @toReadable a _ policy ih =>
    obtain ⟨hsame, -⟩ | ⟨m, -, -, -, hnew⟩ := a.toReadable_cases policy
    · rw [hsame] at hform ⊢
      exact ih hform
    · rw [hnew] at hform
      cases hform

theorem toWire_of_local {a : Address} (h : ∀ m ∈ a.mailbox, '@' ∉ m) (policy : DomainPolicy) :
    a.toWire policy = .ok a := by
  unfold toWire
  split
  · rename_i m hm
    exact if_pos (by simp [h m hm])
  · rfl

/-- Passing over an entry in wire form loses nothing if its domain is ASCII. -/
theorem toWire_eq_map {a : Address}
    (h : a.form = some .wire → ∀ m ∈ a.mailbox, Mailbox.HasAsciiDomain m) (policy : DomainPolicy)
    {m : Text} (hm : a.mailbox = some m) (hat : '@' ∈ m) :
    a.toWire policy = (Mailbox.toWire policy m).map fun w =>
      { a with mailbox := some w, form := some .wire } := by
  obtain ⟨personal, mailbox, group, form⟩ := a
  obtain rfl : mailbox = some m := hm
  by_cases hform : form = some .wire
  · subst hform
    rw [Mailbox.toWire_of_hasAsciiDomain (h rfl m rfl)]
    rfl
  · cases hw : Mailbox.toWire policy m <;> simp [toWire, Except.map, hform, hat, hw]

theorem Made.hasAsciiDomain_of_toWire {a w : Address} (h : a.Made)
    (hp : policy.converter.GivesAscii) (hw : a.toWire policy = .ok w) :
    ∀ m ∈ w.mailbox, Mailbox.HasAsciiDomain m := by
  obtain ⟨rfl, hwire | hlocal⟩ | ⟨m, m', -, hm', rfl⟩ := toWire_cases hw
  · exact h.hasAsciiDomain hwire
  · exact fun m hm => Mailbox.hasAsciiDomain_of_not_mem (hlocal m hm)
  · rintro m ⟨⟩
    exact Mailbox.hasAsciiDomain_of_toWire hp hm'

end Address

namespace AddressList

/-- Every mailbox has an ASCII domain or none. -/
def IsWire (l : AddressList) : Prop := ∀ m ∈ l.mailboxes, Mailbox.HasAsciiDomain m

theorem IsWire.mono {l l' : AddressList} (h : l.IsWire) (hsub : l' ⊆ l) : l'.IsWire :=
  fun m hm => h m (List.filterMap_subset _ hsub hm)

theorem IsWire.append {l l' : AddressList} (h : l.IsWire) (h' : l'.IsWire) : IsWire (l ++ l') := by
  intro m hm
  rw [mailboxes, List.filterMap_append, List.mem_append] at hm
  exact hm.elim (h m) (h' m)

/-- A list that was brought into wire form without an error. -/
theorem isWire_of_toWire (hp : policy.converter.GivesAscii) {l w : AddressList}
    (hl : ∀ a ∈ l, a.Made) (h : toWire policy l = (w, [])) : w.IsWire := by
  obtain ⟨rfl, hnone⟩ := Prod.ext_iff.1 h
  intro m hm
  obtain ⟨b, hb, hmail⟩ := List.mem_filterMap.1 hm
  obtain ⟨a, ha, rfl⟩ := List.mem_map.1 hb
  have hkept := List.filterMap_eq_nil_iff.1 hnone a ha
  cases hw : a.toWire policy with
  | error e =>
    rw [hw] at hkept
    cases hkept
  | ok w =>
    rw [hw] at hmail
    exact (hl a ha).hasAsciiDomain_of_toWire hp hw m hmail

end AddressList
end Recipients
