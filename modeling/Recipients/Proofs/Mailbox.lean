import Recipients.Mailbox
import Recipients.Proofs.Domain.Converter

/-
  A mailbox in its two forms. What is in wire form has an ASCII domain or none, and a mailbox with one
  is in wire form already. A domain is shown in another form only if that encodes back to it
  (`toReadable_cases`), so from what is shown the wire form is found again, but for capitals in the
  domain (`exists_toWire_toReadable`). What has been shown once is not shown in a third form
  (`toReadable_toReadable`).
-/

namespace Recipients
namespace Mailbox

/-- The mailbox has no domain, or one in ASCII. -/
def HasAsciiDomain (m : Text) : Prop := ∀ p ∈ Text.cutLast '@' m, p.2.isAscii = true

/-- The same mailbox, but for the case of its domain. -/
def SameButDomainCase (m w : Text) : Prop :=
  w = m ∨ ∃ user d d' : Text, m = user ++ '@' :: d ∧ '@' ∉ d ∧ w = user ++ '@' :: d' ∧
    d'.alike d = true

variable {policy sent : DomainPolicy} {m w : Text}

/-! ## ASCII domains -/

theorem hasAsciiDomain_of_not_mem (h : '@' ∉ m) : HasAsciiDomain m := by
  intro p hp
  rw [Text.cutLast_eq_none_iff.2 h] at hp
  cases hp

theorem hasAsciiDomain_append (user : Text) {domain : Text} (h : domain.isAscii = true) :
    HasAsciiDomain (user ++ '@' :: domain) := by
  intro p hp
  rw [Text.cutLast_append] at hp
  obtain rfl := Option.some.inj hp
  cases hcut : Text.cutLast '@' domain with
  | none => exact h
  | some q =>
    have hsuffix : q.2 <:+ domain :=
      ⟨q.1 ++ ['@'], by rw [List.append_assoc]; exact (Text.cutLast_eq_some_iff.1 hcut).1.symm⟩
    exact Text.isAscii_iff.2 fun c hc => Text.isAscii_iff.1 h c (hsuffix.subset hc)

theorem hasAsciiDomain_of_toWire (hp : policy.converter.GivesAscii) (h : toWire policy m = .ok w) :
    HasAsciiDomain w := by
  unfold toWire at h
  split at h
  · rename_i hcut
    rw [← Except.ok.inj h]
    exact hasAsciiDomain_of_not_mem (Text.cutLast_eq_none_iff.1 hcut)
  · rename_i user domain hcut
    split at h
    · rename_i hascii
      rw [← Except.ok.inj h, (Text.cutLast_eq_some_iff.1 hcut).1]
      exact hasAsciiDomain_append user hascii
    · split at h
      · cases h
      · split at h
        · rename_i hascii
          rw [← Except.ok.inj h]
          exact hasAsciiDomain_append user (hp _ _ hascii)
        · cases h

theorem toWire_of_hasAsciiDomain (h : HasAsciiDomain m) (policy : DomainPolicy) :
    toWire policy m = .ok m := by
  unfold toWire
  cases hcut : Text.cutLast '@' m with
  | none => rfl
  | some p => exact if_pos (h p hcut)

theorem toWire_of_not_mem (h : '@' ∉ m) (policy : DomainPolicy) : toWire policy m = .ok m := by
  rw [toWire, Text.cutLast_eq_none_iff.2 h]

/-- The error for a mailbox that has no wire form. -/
def rejection? (policy : DomainPolicy) (m : Text) : Option DomainError :=
  match toWire policy m with
  | .ok _ => none
  | .error e => some e

theorem rejection?_eq_some_iff {e : DomainError} :
    rejection? policy m = some e ↔ toWire policy m = .error e := by
  unfold rejection?
  cases toWire policy m <;> simp

theorem rejection?_eq_none_iff : rejection? policy m = none ↔ ∃ w, toWire policy m = .ok w := by
  unfold rejection?
  cases toWire policy m <;> simp

/-- The error names the mailbox. -/
theorem mailbox_of_rejection? {e : DomainError} (h : rejection? policy m = some e) :
    e.mailbox = m := by
  have herror := rejection?_eq_some_iff.1 h
  unfold toWire at herror
  split at herror
  · cases herror
  · split at herror
    · cases herror
    · split at herror
      · cases herror
        rfl
      · split at herror <;> cases herror
        rfl

/-! ## What is shown -/

/-- A mailbox is shown as it is, or with a readable domain that encodes back to its own. -/
theorem toReadable_cases (policy : DomainPolicy) (m : Text) :
    toReadable policy m = m ∨ ∃ user d r a, Text.cutLast '@' m = some (user, d) ∧
      hasEncodedLabel d = true ∧ policy.converter.toReadable d = some r ∧
      policy.converter.toAscii r = some a ∧ Text.alike a d = true ∧
      toReadable policy m = user ++ '@' :: r := by
  unfold toReadable
  split
  · exact .inl rfl
  · rename_i user d hcut
    split
    · rename_i hwanted
      split
      · rename_i r hreadable
        obtain ⟨hr, hback⟩ := Option.filter_eq_some_iff.1 hreadable
        obtain ⟨a, ha, halike⟩ := (Option.any_eq_true _ _).1 hback
        exact .inr ⟨user, d, r, a, hcut, (Bool.and_eq_true_iff.1 hwanted).2, hr, ha, halike, rfl⟩
      · exact .inl rfl
    · exact .inl rfl

theorem toReadable_of_not_mem (h : '@' ∉ m) (policy : DomainPolicy) : toReadable policy m = m := by
  rw [toReadable, Text.cutLast_eq_none_iff.2 h]

/-- Without decoding nothing is shown in another form, and with it always the same. -/
theorem toReadable_eq_or (c : Domain.Converter) (encode encode' decode : Bool) (m : Text) :
    toReadable ⟨encode', decode, c⟩ m = m ∨
      toReadable ⟨encode', decode, c⟩ m = toReadable ⟨encode, true, c⟩ m := by
  cases decode with
  | true => exact .inr rfl
  | false =>
    left
    unfold toReadable
    split <;> rfl

/-- What was shown with decoding is shown unchanged from then on, with decoding or without. -/
theorem toReadable_toReadable {c : Domain.Converter} (hascii : c.GivesAscii) (hat : c.AddsNoAt)
    (hread : c.KeepsReadable) (encode encode' decode : Bool) (m : Text) :
    toReadable ⟨encode', decode, c⟩ (toReadable ⟨encode, true, c⟩ m) =
      toReadable ⟨encode, true, c⟩ m := by
  obtain hm | ⟨user, d, r, a, hcut, -, hr, ha, halike, hm⟩ := toReadable_cases ⟨encode, true, c⟩ m
  · rw [hm]
    obtain hagain | hagain := toReadable_eq_or c encode encode' decode m
    · exact hagain
    · rw [hagain, hm]
  · rw [hm]
    have hd : '@' ∉ d := (Text.cutLast_eq_some_iff.1 hcut).2
    have hdascii : d.isAscii = true := Text.isAscii_of_alike halike (hascii r a ha)
    have hcut' : Text.cutLast '@' (user ++ '@' :: r) = some (user, r) :=
      Text.cutLast_eq_some_iff.2 ⟨rfl, hat d r hdascii hd hr⟩
    obtain hagain | ⟨user', d', r', -, hcut'', -, hr', -, -, hagain⟩ :=
      toReadable_cases ⟨encode', decode, c⟩ (user ++ '@' :: r)
    · exact hagain
    · obtain ⟨rfl, rfl⟩ := Prod.ext_iff.1 (Option.some.inj (hcut'.symm.trans hcut''))
      rw [hagain, hread d r r' hr hr']

/-- What is shown of a mailbox has a wire form again, and that is the mailbox, but for the case of
    its domain. -/
theorem toWire_toReadable (hascii : HasAsciiDomain m) (hsame : sent.converter = policy.converter)
    (hencode : sent.encode = true)
    (hat : ∀ p ∈ Text.cutLast '@' m, ∀ r, policy.converter.toReadable p.2 = some r → '@' ∉ r)
    (hcase : policy.converter.KeepsAscii) :
    ∃ w, toWire sent (toReadable policy m) = .ok w ∧ SameButDomainCase m w := by
  obtain hm | ⟨user, d, r, a, hcut, -, hr, ha, halike, hm⟩ := toReadable_cases policy m
  · rw [hm]
    exact ⟨m, toWire_of_hasAsciiDomain hascii sent, .inl rfl⟩
  · obtain ⟨rfl, hd⟩ := Text.cutLast_eq_some_iff.1 hcut
    have hcut' : Text.cutLast '@' (user ++ '@' :: r) = some (user, r) :=
      Text.cutLast_eq_some_iff.2 ⟨rfl, hat _ hcut r hr⟩
    rw [hm, toWire, hcut']
    dsimp only
    split
    · -- A readable form in ASCII encodes to itself, but for case.
      rename_i hrascii
      have hback : Text.alike r a = true := (Text.alike_comm r a).trans (hcase r a hrascii ha)
      exact ⟨_, rfl, .inr ⟨user, d, r, rfl, hd, rfl, Text.alike_trans hback halike⟩⟩
    · rw [hencode, hsame, ha]
      exact ⟨_, rfl, .inr ⟨user, d, a, rfl, hd, rfl, halike⟩⟩

/-- Whatever is wanted when a mailbox with an ASCII domain or none is shown, what is shown of it has a
    wire form where encoding is wanted, and that is the mailbox, but for the case of its domain. -/
theorem exists_toWire_toReadable {c : Domain.Converter} (hat : c.AddsNoAt) (hcase : c.KeepsAscii)
    (hm : HasAsciiDomain m) (encode decode decode' : Bool) :
    ∃ w, toWire ⟨true, decode', c⟩ (toReadable ⟨encode, decode, c⟩ m) = .ok w ∧
      SameButDomainCase m w :=
  toWire_toReadable hm rfl rfl
    (fun p hp r => hat p.2 r (hm p hp) (Text.cutLast_eq_some_iff.1 hp).2) hcase

/-- A mailbox with two at signs and its domain in capitals. -/
theorem exists_toWire_toReadable_capitals :
    let c : Domain.Converter := .knowing "xn--bcher-kva.example".toList "bücher.example".toList
    let m := "\"a@b\"@XN--Bcher-KVA.example".toList
    c.AddsNoAt ∧ c.KeepsAscii ∧ HasAsciiDomain m ∧
      toReadable ⟨true, true, c⟩ m = "\"a@b\"@bücher.example".toList ∧
      ∃ w, toWire ⟨true, true, c⟩ (toReadable ⟨true, true, c⟩ m) = .ok w ∧ SameButDomainCase m w := by
  intro c m
  have hat : c.AddsNoAt := Domain.Converter.knowing_addsNoAt _ (by decide)
  have hcase : c.KeepsAscii := Domain.Converter.knowing_keepsAscii _ (by decide)
  have hm : HasAsciiDomain m := by
    unfold HasAsciiDomain
    decide
  exact ⟨hat, hcase, hm, by decide +kernel, exists_toWire_toReadable hat hcase hm true true true⟩

end Mailbox
end Recipients
