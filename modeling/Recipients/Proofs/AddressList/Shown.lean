import Mathlib.Data.List.Forall2
import Recipients.Proofs.Address.Shown

/-
  What is shown of a list can be typed in again. It is the written form of the list with its domains
  as they are shown (`render_toReadable`), so it is read back entry by entry, and in wire form the
  entries are those of the list, but for capitals in their domains (`parseOnto_render_toReadable`).
-/

namespace Recipients
namespace AddressList

variable {policy sent : DomainPolicy} {l : AddressList}

theorem isWire_iff : l.IsWire ↔ ∀ a ∈ l, ∀ m ∈ a.mailbox, Mailbox.HasAsciiDomain m := by
  simp only [IsWire, mailboxes, List.mem_filterMap]
  constructor
  · intro h a ha m hm
    exact h m ⟨a, ha, hm⟩
  · rintro h m ⟨a, ha, hm⟩
    exact h a ha m hm

theorem separates_shown (policy : DomainPolicy) (a : Address) (l : AddressList) :
    separates (a.shown policy) (l.map (Address.shown policy)) = separates a l := by
  cases l with
  | nil => rfl
  | cons b l =>
    rw [List.map_cons, separates, separates, Address.isGroupMarker_shown, Address.isGroupEnd_shown]

/-- To show a list is to write the list that is shown. -/
theorem render_toReadable (hc : policy.converter.KeepsMarks) (hl : l.WellFormed)
    (hascii : ∀ a ∈ l, ∀ m ∈ a.mailbox, Mailbox.HasAsciiDomain m) :
    l.render (Mailbox.toReadable policy) = write (l.map (Address.shown policy)) := by
  induction l with
  | nil => rfl
  | cons a l ih =>
    obtain ⟨ha, hl⟩ := List.forall_mem_cons.1 hl
    obtain ⟨hfirst, hrest⟩ := List.forall_mem_cons.1 hascii
    rw [List.map_cons, write_cons, ← ih hl hrest, ← Address.render_toReadable hc ha hfirst, separator,
      separates_shown, render, List.append_assoc]

theorem countRecipients_shown (policy : DomainPolicy) (l : AddressList) :
    countRecipients (l.map (Address.shown policy)) = l.countRecipients := by
  rw [countRecipients, List.countP_map]
  refine List.countP_congr fun a _ => ?_
  simp [Address.shown]

/-- A list that has been shown and read has a wire form, which is the list itself, but for the case of
    its domains. -/
theorem toWire_shown (hc : policy.converter.KeepsMarks) (hsame : sent.converter = policy.converter)
    (hencode : sent.encode = true) (hl : l.WellFormed)
    (hascii : ∀ a ∈ l, ∀ m ∈ a.mailbox, Mailbox.HasAsciiDomain m) :
    ∃ w, toWire sent ((l.map (Address.shown policy)).map Address.unconverted) = (w, []) ∧
      List.Forall₂ Address.SameButDomainCase l w := by
  induction l with
  | nil => exact ⟨[], rfl, .nil⟩
  | cons a l ih =>
    obtain ⟨ha, hl⟩ := List.forall_mem_cons.1 hl
    obtain ⟨hfirst, hrest⟩ := List.forall_mem_cons.1 hascii
    obtain ⟨w, hw, hcase⟩ := Address.toWire_shown hc hsame hencode ha hfirst
    obtain ⟨ws, hws, hcases⟩ := ih hl hrest
    obtain ⟨hmap, hnone⟩ := Prod.ext_iff.1 hws
    refine ⟨w :: ws, Prod.ext ?_ ?_, .cons hcase hcases⟩
    · rw [List.map_cons, List.map_cons, toWire, List.map_cons, hw]
      exact congrArg (w :: ·) hmap
    · rw [List.map_cons, List.map_cons, toWire, List.filterMap_cons_none]
      · exact hnone
      · rw [hw]

/-- What is shown of a well-formed list with ASCII domains is read without an error, and what is read
    has a wire form: the entries of the list in their order, with their names and flags, and their
    mailboxes up to the case of the domains. -/
theorem parseOnto_render_toReadable (hc : policy.converter.KeepsMarks)
    (hsame : sent.converter = policy.converter) (hencode : sent.encode = true) (hl : l.WellFormed)
    (hascii : l.IsWire) :
    ∃ read w, parseOnto [] (l.render (Mailbox.toReadable policy)) = (read, .ok l.countRecipients) ∧
      read.toWire sent = (w, []) ∧ List.Forall₂ Address.SameButDomainCase l w := by
  rw [isWire_iff] at hascii
  have hshown : AddressList.WellFormed (l.map (Address.shown policy)) := by
    intro b hb
    obtain ⟨a, ha, rfl⟩ := List.mem_map.1 hb
    exact (hl a ha).shown hc (hascii a ha)
  have hread := parseOnto_write_gaps hshown (fun c (h : c ∈ []) => (nomatch h))
  rw [List.append_nil, countRecipients_shown, ← render_toReadable hc hl hascii] at hread
  obtain ⟨w, hw, hcases⟩ := toWire_shown hc hsame hencode hl hascii
  exact ⟨_, w, hread, hw, hcases⟩

end AddressList

namespace Domain.Converter

theorem keepsMarks_knowing (wire : Text) {readable : Text} (h : Address.IsDomainPart readable)
    (hnot : readable.isAscii = false) : (knowing wire readable).KeepsMarks where
  readable d r hd _ hr := by
    unfold knowing at hr
    dsimp only at hr
    split at hr <;> obtain rfl := Option.some.inj hr
    · exact h
    · exact hd
  ascii := knowing_keepsAscii wire hnot

end Domain.Converter

namespace AddressList

/-- A group with a name to quote, in it a domain in capitals that is shown in another form, and a
    name of two words. -/
theorem parseOnto_render_toReadable_group :
    let policy : DomainPolicy :=
      { converter := .knowing "xn--bcher-kva.example".toList "bücher.example".toList }
    let l : AddressList := [{ personal := some "Team: \"A\"".toList, group := true },
      { mailbox := some "\"a b\"@XN--Bcher-KVA.example".toList, form := some .wire },
      { personal := some "Jo Doe".toList, mailbox := some "jo.d@[1]".toList }, {}]
    l.render (Mailbox.toReadable policy) =
        "\"Team: \\\"A\\\"\": \"a b\"@bücher.example, Jo Doe <jo.d@[1]>;".toList ∧
      policy.converter.KeepsMarks ∧ l.WellFormed ∧ l.IsWire ∧
      ∃ read w, parseOnto [] (l.render (Mailbox.toReadable policy)) = (read, .ok l.countRecipients) ∧
        read.toWire policy = (w, []) ∧ List.Forall₂ Address.SameButDomainCase l w := by
  intro policy l
  have hc : policy.converter.KeepsMarks :=
    Domain.Converter.keepsMarks_knowing _ (by decide) (by decide)
  have hl : l.WellFormed := by
    intro a ha
    simp only [l, List.mem_cons, List.not_mem_nil, or_false] at ha
    rcases ha with rfl | rfl | rfl | rfl
    · refine .marker rfl rfl fun n hn => ?_
      cases hn
      exact ⟨by decide, .inl ⟨':', by decide, by decide⟩⟩
    · exact .recipient _ rfl rfl
        (.quotedLocal "a b".toList (d := "XN--Bcher-KVA.example".toList) (by decide))
        (fun _ h => (nomatch h))
    · refine .recipient _ rfl rfl (.qualified (t := "jo.d".toList) (d := "[1]".toList)
        (by decide) (by decide)) fun n hn => ?_
      cases hn
      refine ⟨by decide, .inr ⟨["Jo".toList, "Doe".toList], by decide, fun w hw => ?_, by decide⟩⟩
      simp only [List.mem_cons, List.not_mem_nil, or_false] at hw
      rcases hw with rfl | rfl
      · exact ⟨by decide, Text.forall_mem_of_all (by decide)⟩
      · exact ⟨by decide, Text.forall_mem_of_all (by decide)⟩
    · exact .terminator rfl rfl rfl
  have hascii : l.IsWire := by
    unfold IsWire Mailbox.HasAsciiDomain
    decide
  exact ⟨by decide +kernel, hc, hl, hascii, parseOnto_render_toReadable hc rfl rfl hl hascii⟩

end AddressList
end Recipients
