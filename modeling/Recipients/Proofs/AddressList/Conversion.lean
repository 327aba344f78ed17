import Mathlib.Data.List.Forall2
import Recipients.Proofs.Address.Made

/-
  A list that is brought into wire form (`toWire_built`). What becomes of an entry, and whether it is
  reported, depends on its mailbox alone: not on the entries around it, and not on the forms that
  earlier conversions have recorded. An entry that is recorded in wire form is passed over, and since
  its domain is ASCII (`Built.made`, `Made.hasAsciiDomain`) its mailbox is one that a conversion would
  leave as it is. So a second conversion has nothing left to do and reports the same again.
-/

namespace Recipients

variable {policy : DomainPolicy}

namespace Address

/-- What becomes of an entry of a list that is brought into wire form. -/
inductive BroughtToWire (policy : DomainPolicy) (a : Address) : Address → Prop
  | converted {m m' : Text} (hm : a.mailbox = some m) (hdomain : '@' ∈ m)
      (h : Mailbox.toWire policy m = .ok m') :
      BroughtToWire policy a { a with mailbox := some m', form := some .wire }
  | rejected {m : Text} {e : DomainError} (hm : a.mailbox = some m)
      (h : Mailbox.toWire policy m = .error e) : BroughtToWire policy a a
  | noDomain (h : ∀ m ∈ a.mailbox, '@' ∉ m) : BroughtToWire policy a a

/-- The error for an entry that has no wire form. -/
def rejection? (policy : DomainPolicy) (a : Address) : Option DomainError :=
  a.mailbox.bind (Mailbox.rejection? policy)

theorem made_of_form {a : Address} (h : a.form = none) : a.Made := by
  have hfresh : ((groupMarker []).setPersonal a.personal).Made := .setPersonal (.marker _) _
  have hplain : (groupEnd.setPersonal a.personal).Made := .setPersonal .terminator _
  obtain ⟨personal, mailbox, group, form⟩ := a
  subst h
  cases group with
  | true => exact hfresh.setMailbox mailbox
  | false => exact hplain.setMailbox mailbox

theorem Made.qualifyEntry {a : Address} (h : a.Made) (host : Text) :
    (AddressList.qualifyEntry host a).Made := by
  unfold AddressList.qualifyEntry
  split
  · split
    · exact h
    · exact h.setMailbox _
  · exact h

/-- An entry is converted, or rejected, by its mailbox alone. -/
theorem Made.toWire_cases {a : Address} (ha : a.Made) (policy : DomainPolicy) :
    (∃ w, a.toWire policy = .ok w ∧ BroughtToWire policy a w ∧ a.rejection? policy = none) ∨
      ∃ e, a.toWire policy = .error e ∧ BroughtToWire policy a a ∧
        a.rejection? policy = some e := by
  by_cases hdomain : ∃ m ∈ a.mailbox, '@' ∈ m
  · obtain ⟨m, hm, hat⟩ := hdomain
    have hmap := toWire_eq_map ha.hasAsciiDomain policy hm hat
    have hrejection : a.rejection? policy = Mailbox.rejection? policy m := by
      rw [rejection?, hm, Option.bind_some]
    cases hw : Mailbox.toWire policy m with
    | ok m' =>
      rw [hw] at hmap
      exact .inl ⟨_, hmap, .converted hm hat hw,
        hrejection.trans (Mailbox.rejection?_eq_none_iff.2 ⟨m', hw⟩)⟩
    | error e =>
      rw [hw] at hmap
      exact .inr ⟨e, hmap, .rejected hm hw,
        hrejection.trans (Mailbox.rejection?_eq_some_iff.2 hw)⟩
  · have hlocal : ∀ m ∈ a.mailbox, '@' ∉ m := fun m hm hat => hdomain ⟨m, hm, hat⟩
    refine .inl ⟨a, toWire_of_local hlocal policy, .noDomain hlocal, ?_⟩
    rw [rejection?, Option.bind_eq_none_iff]
    exact fun m hm =>
      Mailbox.rejection?_eq_none_iff.2 ⟨m, Mailbox.toWire_of_not_mem (hlocal m hm) policy⟩

/-- Converted again, an entry stays as it is, or is rejected again. -/
theorem toWire_toWire (policy : DomainPolicy) (a : Address) :
    ((a.toWire policy).toOption.getD a).toWire policy = a.toWire policy := by
  cases h : a.toWire policy with
  | error e => exact h
  | ok w =>
    obtain ⟨rfl, -⟩ | ⟨m, m', -, -, rfl⟩ := toWire_cases h
    · exact h
    · rfl

end Address

namespace AddressList

/-- A list as it comes about: of fresh entries, out of other lists, of part of a list, with names or
    mailboxes changed, and converted in either direction, each time with whatever is wanted then. -/
inductive Built : AddressList → Prop
  | fresh {l : AddressList} (h : ∀ a ∈ l, a.form = none) : Built l
  | append {l m : AddressList} (hl : Built l) (hm : Built m) : Built (l ++ m)
  | part {l m : AddressList} (hl : Built l) (h : m ⊆ l) : Built m
  | setPersonal {a : Address} (h : Built [a]) (personal : Option Text) : Built [a.setPersonal personal]
  | setMailbox {a : Address} (h : Built [a]) (mailbox : Option Text) : Built [a.setMailbox mailbox]
  | qualify {l : AddressList} (h : Built l) (host : Text) : Built (qualify host l)
  | toWire {l : AddressList} {policy : DomainPolicy} (h : Built l) (hp : policy.converter.GivesAscii) :
      Built (toWire policy l).1
  | toReadable {l : AddressList} (h : Built l) (policy : DomainPolicy) : Built (toReadable policy l).1

theorem Built.made {l : AddressList} (h : l.Built) : ∀ a ∈ l, a.Made := by
  induction h with
  | fresh h => exact fun a ha => Address.made_of_form (h a ha)
  | append _ _ ihl ihm => exact fun a ha => (List.mem_append.1 ha).elim (ihl a) (ihm a)
  | part _ h ih => exact fun a ha => ih a (h ha)
  | setPersonal _ personal ih =>
    intro b hb
    rw [List.mem_singleton.1 hb]
    exact (ih _ List.mem_cons_self).setPersonal personal
  | setMailbox _ mailbox ih =>
    intro b hb
    rw [List.mem_singleton.1 hb]
    exact (ih _ List.mem_cons_self).setMailbox mailbox
  | @qualify l _ host ih =>
    unfold AddressList.qualify
    split
    · exact ih
    · intro b hb
      obtain ⟨a, ha, rfl⟩ := List.mem_map.1 hb
      exact (ih a ha).qualifyEntry host
  | @toWire l policy _ hp ih =>
    intro b hb
    obtain ⟨a, ha, rfl⟩ := List.mem_map.1 hb
    cases hw : a.toWire policy with
    | error e => exact ih a ha
    | ok w => exact (ih a ha).toWire hp hw
  | toReadable _ policy ih =>
    intro b hb
    obtain ⟨p, hp, rfl⟩ := List.mem_map.1 hb
    obtain ⟨a, ha, rfl⟩ := List.mem_map.1 hp
    exact (ih a ha).toReadable policy

theorem map_mailbox_filterMap_rejection? (policy : DomainPolicy) (ms : List Text) :
    (ms.filterMap (Mailbox.rejection? policy)).map DomainError.mailbox =
      ms.filter fun m => (Mailbox.rejection? policy m).isSome := by
  induction ms with
  | nil => rfl
  | cons m ms ih =>
    cases h : Mailbox.rejection? policy m with
    | none => simpa [h] using ih
    | some e => simpa [h, Mailbox.mailbox_of_rejection? h] using ih

theorem toWire_toWire (policy : DomainPolicy) (l : AddressList) :
    toWire policy (toWire policy l).1 = toWire policy l := by
  simp only [toWire, List.map_map, List.filterMap_map, Function.comp_def, Address.toWire_toWire]
  refine congrArg (·, _) (List.map_congr_left fun a _ => ?_)
  cases a.toWire policy <;> rfl

/-- Each entry is converted or rejected by its own mailbox; there is an error for each entry that is
    rejected, in the order of the list and with the mailbox; and a second conversion changes nothing
    and reports the same errors. -/
theorem toWire_built {l : AddressList} (hl : l.Built) (policy : DomainPolicy) :
    List.Forall₂ (Address.BroughtToWire policy) l (toWire policy l).1 ∧
      (toWire policy l).2 = l.mailboxes.filterMap (Mailbox.rejection? policy) ∧
      (toWire policy l).2.map DomainError.mailbox =
        l.mailboxes.filter (fun m => (Mailbox.rejection? policy m).isSome) ∧
      toWire policy (toWire policy l).1 = toWire policy l := by
  have herrors : (toWire policy l).2 = l.mailboxes.filterMap (Mailbox.rejection? policy) := by
    rw [mailboxes, List.filterMap_filterMap]
    refine List.filterMap_congr fun a ha => ?_
    obtain ⟨w, hw, -, hnone⟩ | ⟨e, he, -, hsome⟩ := (hl.made a ha).toWire_cases policy
    · rw [hw]
      exact hnone.symm
    · rw [he]
      exact hsome.symm
  refine ⟨?_, herrors, ?_, toWire_toWire policy l⟩
  · refine List.forall₂_map_right_iff.2 (List.forall₂_same.2 fun a ha => ?_)
    obtain ⟨w, hw, hbrought, -⟩ | ⟨e, he, hbrought, -⟩ := (hl.made a ha).toWire_cases policy
    · rwa [hw]
    · rwa [he]
  · rw [herrors]
    exact map_mailbox_filterMap_rejection? policy l.mailboxes

/-- A group with a mailbox that was converted before, one that is converted now, two that have no wire
    form and one without a domain. -/
theorem toWire_built_group :
    let c : Domain.Converter := .knowing "xn--bcher-kva.org".toList "bücher.org".toList
    let policy : DomainPolicy := ⟨true, true, c⟩
    let before : AddressList := [.groupMarker "g".toList, .ofMailbox "a@bücher.org".toList]
    let l : AddressList := (toWire policy before).1 ++
      [.ofMailbox "b@ä.org".toList, .ofMailbox "c@bücher.org".toList, .ofMailbox "d@ö.org".toList,
        .ofMailbox "e".toList, .groupEnd]
    l.Built ∧ List.Forall₂ (Address.BroughtToWire policy) l (toWire policy l).1 ∧
      (toWire policy l).2.map DomainError.mailbox = ["b@ä.org".toList, "d@ö.org".toList] := by
  intro c policy before l
  have hp : c.GivesAscii := Domain.Converter.knowing_givesAscii (by decide)
  have hbefore : (toWire policy before).1.Built := .toWire (.fresh (by decide)) hp
  have hl : l.Built := hbefore.append (.fresh (by decide))
  obtain ⟨hbrought, -, hmailboxes, -⟩ := toWire_built hl policy
  exact ⟨hl, hbrought, hmailboxes.trans (by decide +kernel)⟩

end AddressList
end Recipients
