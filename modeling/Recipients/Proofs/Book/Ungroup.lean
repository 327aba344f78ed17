import Recipients.Proofs.AddressList.Removal
import Recipients.Proofs.Book.Sequence
import Recipients.Proofs.Command.Spelled

/-
  Members that are added to a group and removed again. `group` puts every entry of a text into a new
  group, and `ungroup` with the same text takes out the mailboxes. So no mailbox belongs to the group
  then; but entries without a mailbox, the marks of groups in the text, are still in it and keep it there
  (`execute_ungroup_group`). A text that is an option of the command puts nothing in and leaves the
  group empty.
-/

namespace Recipients

/-! ## One group that takes and loses a list -/

theorem Address.isSome_toWire {policy : DomainPolicy} (a : Address) :
    ((a.toWire policy).toOption.getD a).mailbox.isSome = a.mailbox.isSome := by
  unfold toWire
  split
  · rename_i m hm
    split
    · rfl
    · split <;> simp [hm, Except.toOption]
  · rfl

namespace Group

/-- Of the entries of a new group, those without a mailbox stay when their list is removed. -/
theorem removeAddresses_new (name : Text) (l : AddressList) :
    (Group.removeAddresses { name, addresses := l } l) =
      { name, addresses := l.filter fun a => a.mailbox.isNone } := by
  rw [removeAddresses, AddressList.foldl_remove]
  refine congrArg (fun addresses => ({ name, addresses } : Group)) (List.filter_congr fun a ha => ?_)
  cases hm : a.mailbox with
  | none => rfl
  | some m =>
    have hmem : m.lower ∈ l.mailboxes.map Text.lower :=
      List.mem_map_of_mem (List.mem_filterMap.2 ⟨a, ha, hm⟩)
    simpa using hmem

theorem addAddresses_new (name : Text) (l : AddressList) :
    Group.addAddresses { name } l = { name, addresses := l } := by
  rw [addAddresses, AddressList.without_nil, List.nil_append]

/-- Without patterns, entries that have no mailbox take none in. -/
theorem isMatch_of_isNone {name : Text} {l : AddressList} (h : ∀ a ∈ l, a.mailbox = none)
    (mailbox : Text) : Group.isMatch { name, addresses := l } mailbox = false := by
  have hnone : l.any (AddressList.hasMailbox mailbox) = false := by
    rw [List.any_eq_false]
    intro a ha
    simp [AddressList.hasMailbox, h a ha]
  rw [isMatch, hnone]
  rfl

end Group

namespace GroupRegistry

variable {r : GroupRegistry} {name : Text}

/-- A group that is named for the first time and takes a list. -/
theorem get?_put_found (hnew : r.get? name = none) (l : AddressList) (n : Text) :
    ((r.found name).put (((r.found name).get name).addAddresses l)).get? n =
      if n = name then some { name, addresses := l } else r.get? n := by
  rw [get_found, get_of_get?_none hnew, Group.addAddresses_new, get?_put, get?_found]
  split
  · rfl
  · rfl

/-- The group, named once more, loses the list. -/
theorem get?_shrink_found {l : AddressList} (hr : r.get? name = some { name, addresses := l })
    (n : Text) :
    ((r.found name).shrink name (·.removeAddresses l)).get? n =
      if n = name then
        if ∀ a ∈ l, a.mailbox.isSome = true then none
        else some { name, addresses := l.filter fun a => a.mailbox.isNone }
      else r.get? n := by
  rw [get?_shrink (f := (·.removeAddresses l)) _ _ _ fun _ => rfl, get?_found]
  by_cases hn : n = name
  · subst hn
    simp only [if_true, get_of_get? hr, Option.map_some, Group.removeAddresses_new,
      Option.filter_some, Group.isEmpty, ← AddressList.filter_isNone_eq_nil_iff]
    cases l.filter fun a => a.mailbox.isNone <;> rfl
  · rw [if_neg hn, if_neg hn, if_neg hn]

end GroupRegistry

namespace Book

/-! ## The commands -/

/-- The words of a group command with one group and one member. -/
def memberWords (group member : Text) : List Text :=
  ["-group".toList, group, "-addr".toList, member]

/-- The line with these words, which may be spelled in any way. -/
def memberLine (removing : Bool) (group member : Text) : Text :=
  (groupVerb removing).name ++ Command.spaced (memberWords group member)

def memberCommand (removing : Bool) (group member : Text) : Command :=
  ⟨(groupVerb removing).name, (memberWords group member).map fun t => ⟨t, []⟩⟩

/-- The book in which the group has been named. -/
def naming (b : Book) (group : Text) : Book := { b with groups := b.groups.found group }

section

variable {b : Book} {g w gs ws : Text} {removing : Bool}

theorem execute_memberLine (hg : Command.Spells gs g) (hw : Command.Spells ws w)
    (removing : Bool) (b : Book) :
    b.execute (memberLine removing gs ws) = b.run [memberCommand removing g w] := by
  have hplain : ∀ t ∈ [Verb.group.name, Verb.ungroup.name, "-group".toList, "-addr".toList],
      t ≠ [] ∧ (t.all fun c =>
        decide (Command.TokenKind.word.endsAt c = false ∧ c ∉ ['\'', '"', '\\'])) = true := by
    decide
  have hfixed {t : Text}
      (ht : t ∈ [Verb.group.name, Verb.ungroup.name, "-group".toList, "-addr".toList]) :
      Command.Spells t t :=
    Command.spells_plain (hplain t ht).1 (Text.forall_mem_of_all (hplain t ht).2)
  have hverb : Command.Spells (groupVerb removing).name (groupVerb removing).name := by
    cases removing <;> exact hfixed (by decide)
  have hfirst : (groupVerb removing).name ≠ Command.aliasWord := by
    cases removing <;> decide
  have hwords : List.Forall₂ Command.Spells (memberWords gs ws) (memberWords g w) :=
    .cons (hfixed (by decide)) (.cons hg (.cons (hfixed (by decide)) (.cons hw .nil)))
  obtain ⟨c, hline, htexts⟩ := Command.ofLine_spaced hverb hfirst hwords
  have hsame : c.texts = (memberCommand removing g w).texts := htexts
  have hperform := b.perform_of_texts hsame fun h => hfirst ((List.cons.inj htexts).1.symm.trans h)
  rw [execute, memberLine, hline, run, run, hperform]

/-- Where the text is a group option, no group follows it, and no member. -/
theorem grouped_groupOption (g : Text) (hw : Command.isGroupOption ⟨w, []⟩ = true) :
    Command.grouped [] ((memberWords g w).map fun t => ⟨t, []⟩) =
      ([⟨[g], ⟨"-addr".toList, []⟩⟩], some ⟨[], .groupNameMissing⟩) := by
  have hlast : Command.grouped [] [⟨w, []⟩] = ([], some ⟨[], .groupNameMissing⟩) := if_pos hw
  show (_ :: (Command.grouped [] [⟨w, []⟩]).1, (Command.grouped [] [⟨w, []⟩]).2) = _
  rw [hlast]
  rfl

theorem grouped_member (g : Text) (hw : Command.isGroupOption ⟨w, []⟩ = false) :
    Command.grouped [] ((memberWords g w).map fun t => ⟨t, []⟩) =
      ([⟨[g], ⟨"-addr".toList, []⟩⟩, ⟨[], ⟨w, []⟩⟩], none) := by
  have hlast : Command.grouped [] [⟨w, []⟩] = ([⟨[], ⟨w, []⟩⟩], none) :=
    if_neg (Bool.eq_false_iff.1 hw)
  show (_ :: (Command.grouped [] [⟨w, []⟩]).1, (Command.grouped [] [⟨w, []⟩]).2) = _
  rw [hlast]
  rfl

theorem perform_memberCommand (removing : Bool) (b : Book) (g w : Text) :
    b.perform (memberCommand removing g w) =
      b.performVerb ((memberWords g w).map fun t => ⟨t, []⟩) (groupVerb removing) := by
  rw [perform, memberCommand, Verb.ofName?_name]
  rfl

section

variable (hw : Command.isGroupOption ⟨w, []⟩ = false) (b : Book) (g : Text)
include hw

/-- The group is named. An option does no more, and any other word is a member that is added or
    removed. -/
theorem perform_member (removing : Bool) (hall : ¬ (removing = true ∧ w = everything)) :
    b.perform (memberCommand removing g w) =
      match MemberKind.ofOption? w with
      | some _ => (b.naming g, .complete)
      | none =>
        match changeMember removing (b.naming g) [g] .address w with
        | (b', none) => (b', .complete)
        | (b', some e) => b'.giveUp [g] e := by
  have haddr : MemberKind.ofOption? "-addr".toList = some .address := by decide
  rw [perform_memberCommand]
  cases removing with
  | false =>
    show eachAdded _ [] none b _ = _
    rw [grouped_member g hw]
    simp only [eachAdded, haddr]
    cases MemberKind.ofOption? w <;> rfl
  | true =>
    show eachRemoved _ [] none b _ = _
    rw [grouped_member g hw]
    simp only [eachRemoved, haddr, if_neg fun h => hall ⟨rfl, h⟩]
    cases MemberKind.ofOption? w <;> rfl

theorem perform_option {kind : MemberKind} (hkind : MemberKind.ofOption? w = some kind)
    (removing : Bool) : b.perform (memberCommand removing g w) = (b.naming g, .complete) := by
  have hall : ¬ (removing = true ∧ w = everything) := by
    rintro ⟨-, rfl⟩
    have hnone : MemberKind.ofOption? everything = none := by decide
    cases hnone.symm.trans hkind
  rw [perform_member hw b g removing hall, hkind]

end

theorem perform_everything (b : Book) (g : Text) :
    b.perform (memberCommand true g everything) =
      ({ b with groups := (b.groups.found g).remove g }, .complete) := rfl

/-! ## What the members are read as -/

theorem readMembers_error_irrelevant {l : AddressList} {bad : CommandError}
    {badDomain : Text → CommandError} (h : b.readMembers w bad badDomain = .ok l)
    (bad' : CommandError) (badDomain' : Text → CommandError) :
    b.readMembers w bad' badDomain' = .ok l :=
  readMembers_eq_ok_iff.2 (readMembers_eq_ok_iff.1 h)

/-- In wire form the same entries have a mailbox. -/
theorem isSome_of_readMembers {l : AddressList} {bad : CommandError}
    {badDomain : Text → CommandError} (h : b.readMembers w bad badDomain = .ok l) :
    (∀ a ∈ l, a.mailbox.isSome = true) ↔
      ∀ a ∈ (AddressList.parseFreeOnto [] w).1, a.mailbox.isSome = true := by
  obtain ⟨read, n, hparsed, hwire⟩ := readMembers_eq_ok_iff.1 h
  have hl : l = read.map fun a => (a.toWire b.domainPolicy).toOption.getD a :=
    (congrArg Prod.fst hwire).symm
  rw [hparsed, hl, List.forall_mem_map]
  simp only [Address.isSome_toWire]

/-- What is accepted is an option, or a text that is read. -/
theorem accepted_cases (h : (b.perform (memberCommand false g w)).2 = .complete) :
    Command.isGroupOption ⟨w, []⟩ = false ∧
      ((∃ kind, MemberKind.ofOption? w = some kind) ∨
        MemberKind.ofOption? w = none ∧
          ∃ l, ∀ bad badDomain, b.readMembers w bad badDomain = .ok l) := by
  cases hw : Command.isGroupOption ⟨w, []⟩ with
  | true =>
    rw [perform_memberCommand] at h
    change (eachAdded _ [] none b _).2 = _ at h
    rw [grouped_groupOption g hw] at h
    cases h
  | false =>
    refine ⟨rfl, ?_⟩
    cases hkind : MemberKind.ofOption? w with
    | some kind => exact .inl ⟨kind, rfl⟩
    | none =>
      rw [perform_member hw b g false (fun h => nomatch h.1), hkind] at h
      simp only [changeMember, addMember] at h
      cases hread : (b.naming g).readMembers w (.badAddress .group w) (.badDomain .group) with
      | error e =>
        rw [hread] at h
        cases h
      | ok l => exact .inr ⟨rfl, l, readMembers_error_irrelevant hread⟩

/-- A line of one group command that does not fail has done all of it. -/
theorem complete_of_run (h : (b.run [memberCommand false g w]).2 = none) :
    (b.perform (memberCommand false g w)).2 = .complete := by
  have hnot : (b.perform (memberCommand false g w)).2 ≠ .cutShort := by
    rw [perform_memberCommand]
    exact eachAdded_ne_cutShort _
  rw [run] at h
  generalize b.perform (memberCommand false g w) = done at h hnot
  obtain ⟨b', _ | _ | e⟩ := done
  · rfl
  · exact absurd rfl hnot
  · cases h

/-! ## The groups afterwards -/

theorem get?_naming_naming (hnew : b.groups.get? g = none) (n : Text) :
    ((b.naming g).naming g).groups.get? n =
      if n = g then some { name := g } else b.groups.get? n := by
  rw [naming, naming, GroupRegistry.get?_found, GroupRegistry.get?_found, GroupRegistry.get_found]
  split
  · rename_i hn
    rw [hn, GroupRegistry.get_of_get?_none hnew]
  · rfl

section

variable {l : AddressList} (hw : Command.isGroupOption ⟨w, []⟩ = false)
  (hkind : MemberKind.ofOption? w = none)
  (hread : ∀ bad badDomain, b.readMembers w bad badDomain = .ok l)
include hw hkind hread

theorem perform_added (g : Text) :
    b.perform (memberCommand false g w) =
      ({ b with groups := (b.groups.found g).put (((b.groups.found g).get g).addAddresses l) },
        .complete) := by
  have hnamed : (b.naming g).readMembers w (.badAddress .group w) (.badDomain .group) = .ok l :=
    hread _ _
  rw [perform_member hw b g false (fun h => nomatch h.1), hkind]
  simp only [changeMember, addMember, hnamed]
  rfl

theorem perform_removed (hall : w ≠ everything) (g : Text) :
    b.perform (memberCommand true g w) =
      ({ b with groups := (b.groups.found g).shrink g (·.removeAddresses l) }, .complete) := by
  have hnamed : (b.naming g).readMembers w (.badAddress .ungroup w) (.badDomain .ungroup) = .ok l :=
    hread _ _
  rw [perform_member hw b g true (fun h => hall h.2), hkind]
  simp only [changeMember, removeMember, hnamed]
  rfl

/-- The entries that a text is read as go into the new group, and those without a mailbox stay. -/
theorem perform_text (hnew : b.groups.get? g = none) :
    ∃ grouped ungrouped : Book,
      b.perform (memberCommand false g w) = (grouped, .complete) ∧
      grouped.perform (memberCommand true g w) = (ungrouped, .complete) ∧
      ∀ n, ungrouped.groups.get? n =
        if n = g then
          if ∀ a ∈ l, a.mailbox.isSome = true then none
          else some { name := g, addresses := l.filter fun a => a.mailbox.isNone }
        else b.groups.get? n := by
  let grouped : Book :=
    { b with groups := (b.groups.found g).put (((b.groups.found g).get g).addAddresses l) }
  have hgrouped (n : Text) : grouped.groups.get? n =
      if n = g then some { name := g, addresses := l } else b.groups.get? n :=
    GroupRegistry.get?_put_found hnew l n
  have hfirst : b.perform (memberCommand false g w) = (grouped, .complete) :=
    perform_added hw hkind hread g
  by_cases hall : w = everything
  · subst hall
    have hsome : ∀ a ∈ l, a.mailbox.isSome = true :=
      (isSome_of_readMembers (hread .noAddress fun _ => .noAddress)).2 (by decide +kernel)
    refine ⟨grouped, _, hfirst, perform_everything grouped g, fun n => ?_⟩
    rw [GroupRegistry.get?_remove, GroupRegistry.get?_found, hgrouped, if_pos hsome]
    split
    · rfl
    · rfl
  · have hr : grouped.groups.get? g = some { name := g, addresses := l } := by
      rw [hgrouped, if_pos rfl]
    refine ⟨grouped, _, hfirst, perform_removed hw hkind (b := grouped) hread hall g, fun n => ?_⟩
    rw [GroupRegistry.get?_shrink_found hr, hgrouped]
    split
    · rfl
    · rfl

end

end

/-- Members that are added to a new group and removed again. What `group` accepts, `ungroup` accepts as
    well, and no mailbox belongs to the group then. The group itself goes exactly if the text is no
    option, and each entry that it is read as has a mailbox. The other groups stay as they are. -/
theorem execute_ungroup_group {b : Book} {g w gs ws : Text} (hg : Command.Spells gs g)
    (hw : Command.Spells ws w) (hnew : b.groups.get? g = none)
    (haccepted : (b.execute (memberLine false gs ws)).2 = none) :
    let after := (b.execute (memberLine false gs ws)).1.execute (memberLine true gs ws)
    after.2 = none ∧
    (after.1.groups.get? g = none ↔ MemberKind.ofOption? w = none ∧
      ∀ a ∈ (AddressList.parseFreeOnto [] w).1, a.mailbox.isSome = true) ∧
    (∀ mailbox, after.1.inGroup g mailbox = false) ∧
    ∀ n, n ≠ g → after.1.groups.get? n = b.groups.get? n := by
  rw [execute_memberLine hg hw] at haccepted
  simp only [execute_memberLine hg hw]
  obtain ⟨hoption, ⟨kind, hkind⟩ | ⟨hkind, l, hread⟩⟩ := accepted_cases (complete_of_run haccepted)
  · simp only [run, perform_option hoption _ g hkind, inGroup, GroupRegistry.isMatch,
      get?_naming_naming hnew, if_true]
    exact ⟨trivial, by simp [hkind], Group.isMatch_of_isNone (List.forall_mem_nil _),
      fun n hn => if_neg hn⟩
  · obtain ⟨grouped, ungrouped, hfirst, hthen, hget⟩ := perform_text hoption hkind hread hnew
    rw [← isSome_of_readMembers (hread .noAddress fun _ => .noAddress)]
    simp only [run, hfirst, hthen, inGroup, GroupRegistry.isMatch, hget, if_true]
    refine ⟨trivial, ?_, fun mailbox => ?_, fun n hn => if_neg hn⟩
    · split
      · rename_i hall
        exact iff_of_true rfl ⟨hkind, hall⟩
      · rename_i hall
        exact iff_of_false (Option.some_ne_none _) fun h => hall h.2
    · split
      · rfl
      · refine Group.isMatch_of_isNone (fun a ha => ?_) mailbox
        exact Option.isNone_iff_eq_none.1 (List.mem_filter.1 ha).2

/-- One mailbox under two spellings, with a name the second time: the group is gone, and a group that
    was there before is not. -/
theorem execute_ungroup_group_twice :
    ∃ (b : Book) (gs ws : Text), Command.Spells gs "my friends".toList ∧
      Command.Spells ws "a@x.org, \"Al\" <A@X.org>".toList ∧
      b.groups.get? "my friends".toList = none ∧
      (b.execute (memberLine false gs ws)).2 = none ∧
      ((b.execute (memberLine false gs ws)).1.execute
        (memberLine true gs ws)).1.groups.get? "my friends".toList = none ∧
      ((b.execute (memberLine false gs ws)).1.execute
        (memberLine true gs ws)).1.groups.get? "g".toList = some { name := "g".toList } := by
  let b : Book := { plain with groups := [{ name := "g".toList }] }
  have hg := Command.spells_quoteWord "my friends".toList
  have hw := Command.spells_quoteWord "a@x.org, \"Al\" <A@X.org>".toList
  have hnew : b.groups.get? "my friends".toList = none := by decide
  have haccepted : (b.execute (memberLine false (Command.quoteWord "my friends".toList)
      (Command.quoteWord "a@x.org, \"Al\" <A@X.org>".toList))).2 = none := by
    decide +kernel
  obtain ⟨-, hgone, -, hothers⟩ := execute_ungroup_group hg hw hnew haccepted
  exact ⟨b, _, _, hg, hw, hnew, haccepted, hgone.2 ⟨by decide, by decide +kernel⟩,
    hothers _ (by decide)⟩

/-- The marks of a group in the text stay, and the group with them. -/
theorem execute_ungroup_group_marked :
    ¬ ∀ (b : Book) (g w : Text), b.groups.get? g = none →
      (b.execute (memberLine false (Command.quoteWord g) (Command.quoteWord w))).2 = none →
      ((b.execute (memberLine false (Command.quoteWord g) (Command.quoteWord w))).1.execute
        (memberLine true (Command.quoteWord g) (Command.quoteWord w))).1.groups.get? g = none := by
  intro h
  have hmarked := h plain "g".toList "f: a@x.org;".toList (by decide) (by decide +kernel)
  revert hmarked
  decide +kernel

end Book
end Recipients
