import Recipients.Proofs.Alias.Changes
import Recipients.Proofs.Alias.Unfolding
import Recipients.Proofs.Book.Groups
import Recipients.Proofs.Book.Saved
import Recipients.Proofs.Command.Plain

/-
  Aliases with safe names. A safe name is a word of a command line as it stands, and as address text it
  is the mailbox of that name, so what is defined under it is found by it (`execute_definition`). There
  are two exceptions, the empty name and the option that names a group: the check for safe names lets
  them pass, and the line that should define such an alias takes another word for the name, if any.
-/

namespace Recipients

/-! ## Safe names as address text -/

theorem Alias.isLocalPart_of_isSafeName {name : Text} (hne : name ≠ [])
    (hname : isSafeName name = true) : Address.IsLocalPart name := by
  refine ⟨hne, fun c hc => ?_⟩
  have hsafe : isNameCharacter c = true := List.all_eq_true.1 hname c hc
  have hspecials : ∀ d ∈ Address.specials, isNameCharacter d = true → d = '.' :=
    Text.forall_mem_of_all (by decide +kernel)
  have hgaps : ∀ d ∈ [' ', '\t', '\r', '\n'], Text.isBlank d = true :=
    Text.forall_mem_of_all (by decide)
  by_cases hspecial : Address.isSpecial c = true
  · exact .inr (hspecials c (List.contains_iff_mem.1 hspecial) hsafe)
  · have hblank := (Command.not_mark_of_isNameCharacter hsafe).1
    have hgap : c ∉ [' ', '\t', '\r', '\n'] := fun h => by
      rw [hgaps c h] at hblank
      cases hblank
    exact .inl (by simpa [Address.isOrdinary, Address.isGap, hspecial, and_assoc] using hgap)

/-- As address text, a safe name is a mailbox. -/
theorem AddressList.parseFreeOnto_name {name : Text} (hne : name ≠ [])
    (hname : Alias.isSafeName name = true) :
    parseFreeOnto [] name = ([.ofMailbox name], .ok 1) := by
  have hlocal := Alias.isLocalPart_of_isSafeName hne hname
  have hnull : name ≠ ['@'] := by
    rintro rfl
    exact absurd hlocal (by decide)
  have hl : AddressList.WellFormed [.ofMailbox name] := fun a ha => by
    rw [List.mem_singleton.1 ha]
    exact .recipient name rfl rfl (.bare hlocal) fun _ h => nomatch h
  have hread := parseFreeOnto_write hl (Nat.zero_lt_one) (.inl rfl)
  rwa [List.append_nil, write_singleton, write_recipient rfl rfl,
    writeMailbox_bare (.bare hlocal) hnull] at hread

namespace Command

/-! ## The words of a definition -/

theorem of_mem_grouped {named : List Text} {words : List Word} {w : GroupedWord}
    (h : w ∈ (grouped named words).1) : isGroupOption w.word = false ∧ w.word ∈ words := by
  fun_induction grouped named words with
  | case1 | case2 | case4 => cases h
  | case3 named v hv =>
    rw [List.mem_singleton.1 h]
    exact ⟨Bool.eq_false_iff.2 hv, List.mem_singleton_self v⟩
  | case5 named v n hv w' ws ih =>
    obtain ⟨hoption, hmem⟩ := ih h
    exact ⟨hoption, List.mem_cons_of_mem v (List.mem_cons_of_mem n hmem)⟩
  | case6 named v n ws hv more ih =>
    rcases List.mem_cons.1 h with rfl | h
    · exact ⟨Bool.eq_false_iff.2 hv, List.mem_cons_self⟩
    · obtain ⟨hoption, hmem⟩ := ih h
      exact ⟨hoption, List.mem_cons_of_mem v hmem⟩

end Command

namespace Book

/-- What a definition defines is called by one of its words, which is no option. -/
theorem performDefine_aliases (b : Book) (words : List Word) :
    (b.performDefine words).1.aliases = b.aliases ∨
      ∃ w ∈ words, Command.isGroupOption w = false ∧
        ∃ a : Alias, a.name = w.text ∧ (b.performDefine words).1.aliases = b.aliases.define a := by
  unfold performDefine
  split
  · rename_i w ws loose hgrouped
    have hw := Command.of_mem_grouped (hgrouped ▸ List.mem_cons_self : w ∈ (Command.grouped [] words).1)
    simp only [defineAlias]
    split
    · exact .inl rfl
    · refine .inr ⟨w.word, hw.2, hw.1, _, ?_, rfl⟩
      split <;> rfl
  · exact .inl rfl
  · exact .inl rfl

/-! ## Definitions -/

/-- The line that defines an alias, with its addresses as they are. -/
def definitionLine (name addresses : Text) : Text :=
  Command.aliasWord ++ ' ' :: (name ++ ' ' :: addresses)

/-- Address text that may stand in a line as it is, and what it is read as: some recipients, whose
    domains are in ASCII. -/
structure PlainAddresses (t : Text) (l : AddressList) : Prop where
  read : ∃ n, AddressList.parseFreeOnto [] t = (l, .ok (n + 1))
  ascii : ∀ m ∈ l.mailboxes, Mailbox.HasAsciiDomain m
  start : ∃ c r, t = c :: r ∧ Text.isBlank c = false
  plain : ∀ c ∈ t, c ∉ ['\'', '"', '\\', '#']

section

variable {b : Book} {name t : Text} {l : AddressList}

theorem execute_aliases (b : Book) (rest : Text) :
    (b.execute (Command.aliasWord ++ ' ' :: rest)).1.aliases =
      (b.performDefine (Command.readWords (Command.start rest)).1).1.aliases := by
  rw [execute, Command.ofLine_alias, run, perform_definition]
  generalize b.performDefine _ = done
  obtain ⟨b', _ | _ | e⟩ := done
  · rfl
  · rfl
  · rfl

/-- Nothing is ever defined under an empty name or under the option that names a group. -/
theorem name_of_executed (hname : Alias.isSafeName name = true) (ht : PlainAddresses t l)
    (hfree : b.aliases.get? name = none) {a : Alias}
    (ha : (b.execute (definitionLine name t)).1.aliases.get? name = some a) :
    name ≠ [] ∧ name.alike "-group".toList = false := by
  have hplain : ∀ c ∈ Command.start (name ++ ' ' :: t), c ∉ ['\'', '"', '\\'] := by
    intro c hc
    have hmem := (List.dropWhile_suffix Text.isBlank).subset hc
    rw [List.mem_append, List.mem_cons] at hmem
    rcases hmem with hmem | rfl | hmem
    · have hmark := (Command.not_mark_of_isNameCharacter (List.all_eq_true.1 hname c hmem)).2
      simp_all
    · decide
    · have hmark := ht.plain c hmem
      simp_all
  rw [definitionLine, execute_aliases] at ha
  rcases b.performDefine_aliases (Command.readWords (Command.start (name ++ ' ' :: t))).1 with
    hsame | ⟨w, hw, hoption, d, hd, hdefined⟩
  · rw [hsame, hfree] at ha
    cases ha
  · rw [hdefined] at ha
    have halike := AliasRegistry.alike_of_get?_define hfree ha
    rw [hd] at halike
    constructor
    · rintro rfl
      have hne := Command.readWords_ne_nil hplain (Command.start_head _) w hw
      rw [Text.alike_iff] at halike
      exact hne (List.map_eq_nil_iff.1 halike)
    · by_contra hgroup
      rw [Bool.not_eq_false] at hgroup
      rw [Command.isGroupOption, Text.alike_trans halike hgroup] at hoption
      cases hoption

/-- Any other safe name is defined. -/
theorem execute_safeName (hname : Alias.isSafeName name = true) (hne : name ≠ [])
    (hoption : name.alike "-group".toList = false) (ht : PlainAddresses t l)
    (hfree : b.aliases.get? name = none) :
    ∃ a : Alias, a.name = name ∧ a.addresses.map Address.unconverted = l.map Address.unconverted ∧
      b.execute (definitionLine name t) = ({ b with aliases := b.aliases.append a }, none) := by
  obtain ⟨n, hparsed⟩ := ht.read
  obtain ⟨w, hread, hsame⟩ := b.readMembers_of_hasAsciiDomain hparsed ht.ascii
  obtain ⟨words, hline⟩ := Command.ofLine_definition (Command.spells_name hne hname) t
  have hstart : Command.start t = t := by
    obtain ⟨c, r, rfl, hc⟩ := ht.start
    exact Command.start_cons hc r
  have hfirst : Command.isGroupOption ⟨name, t⟩ = false := hoption
  have hperform : b.perform ⟨Command.aliasWord, ⟨name, t⟩ :: words⟩ =
      ({ b with aliases := b.aliases.append { name, addresses := w } }, .complete) := by
    rw [perform_definition, performDefine_cons b hfirst,
      defineAlias_of_read (Command.next_addresses_plain ht.plain) hread]
    simp only [Command.comment?, AliasRegistry.define, hfree]
  refine ⟨{ name, addresses := w }, rfl, hsame, ?_⟩
  rw [definitionLine, execute, hline, hstart, run, hperform]
  rfl

/-- An alias with a safe name. The line that defines it does that exactly if the name is not empty and
    is not the option that names a group. Then the name, read as address text, is an entry that refers
    to the alias; and it expands to what the addresses expand to, if none of these refers back. -/
theorem execute_definition (hname : Alias.isSafeName name = true)
    (hfree : b.aliases.get? name = none) (ht : PlainAddresses t l) :
    (name ≠ [] ∧ name.alike "-group".toList = false ↔
      ∃ a : Alias, a.name = name ∧
        a.addresses.map Address.unconverted = l.map Address.unconverted ∧
        b.execute (definitionLine name t) = ({ b with aliases := b.aliases.append a }, none)) ∧
    ∀ a, (b.execute (definitionLine name t)).1.aliases.get? name = some a →
      let after := (b.execute (definitionLine name t)).1
      AddressList.parseFreeOnto [] name = ([.ofMailbox name], .ok 1) ∧
      ((∀ c, after.expander.Reachable a.addresses c → ¬ after.expander.Refers c a) →
        after.expand (AddressList.parseFreeOnto [] name).1 = after.expand a.addresses) := by
  refine ⟨⟨fun h => execute_safeName hname h.1 h.2 ht hfree, ?_⟩, fun a ha => ?_⟩
  · rintro ⟨a, rfl, -, hdone⟩
    have hfound := AliasRegistry.get?_append hfree
    refine name_of_executed hname ht hfree (a := a) ?_
    rwa [hdone]
  · obtain ⟨hne, -⟩ := name_of_executed hname ht hfree ha
    have hread := AddressList.parseFreeOnto_name hne hname
    refine ⟨hread, fun hback => ?_⟩
    have hat : '@' ∉ name := fun hmem =>
      absurd ((Alias.isLocalPart_of_isSafeName hne hname).2 '@' hmem) (by decide)
    rw [hread]
    exact Expander.expand_refers ⟨rfl, rfl, name, rfl, hat, ha⟩ hback

end

/-- A name with a letter outside ASCII and with a dot, for an alias of another alias and of a
    mailbox. -/
theorem execute_definition_team :
    ∃ (b : Book) (name t : Text) (a : Alias), name = "Équipe.1".toList ∧
      Alias.isSafeName name = true ∧ b.aliases.get? name = none ∧
      PlainAddresses t [.ofMailbox "x".toList, .ofMailbox "jo@x.org".toList] ∧
      name ≠ [] ∧ name.alike "-group".toList = false ∧
      (∃ a : Alias, a.name = name ∧
        b.execute (definitionLine name t) = ({ b with aliases := b.aliases.append a }, none)) ∧
      (b.execute (definitionLine name t)).1.aliases.get? name = some a ∧
      (∀ c, (b.execute (definitionLine name t)).1.expander.Reachable a.addresses c →
        ¬ (b.execute (definitionLine name t)).1.expander.Refers c a) ∧
      (b.execute (definitionLine name t)).1.expand (AddressList.parseFreeOnto [] name).1 =
        (b.execute (definitionLine name t)).1.expand a.addresses := by
  let other : Alias := { name := "x".toList, addresses := [.ofMailbox "x@x.org".toList] }
  let b : Book := { plain with aliases := { aliases := [other] } }
  let name : Text := "Équipe.1".toList
  let t : Text := "x, jo@x.org".toList
  let jo : Address := { mailbox := some "jo@x.org".toList, form := some .wire }
  let a : Alias := { name, addresses := [.ofMailbox "x".toList, jo] }
  let e : Expander := (b.execute (definitionLine name t)).1.expander
  have hname : Alias.isSafeName name = true := by decide +kernel
  have hfree : b.aliases.get? name = none := by decide +kernel
  have hne : name ≠ [] := by decide
  have hoption : name.alike "-group".toList = false := by decide
  have ht : PlainAddresses t [.ofMailbox "x".toList, .ofMailbox "jo@x.org".toList] := by
    refine ⟨⟨1, by decide +kernel⟩, ?_, ⟨'x', _, rfl, by decide⟩,
      Text.forall_mem_of_all (by decide)⟩
    unfold Mailbox.HasAsciiDomain
    decide
  have ha : (b.execute (definitionLine name t)).1.aliases.get? name = some a := by decide +kernel
  obtain ⟨hdefined, hexpanded⟩ := execute_definition hname hfree ht
  obtain ⟨c, hc, -, hdone⟩ := hdefined.1 ⟨hne, hoption⟩
  -- The entries that can be reached, and the alias that one of them refers to.
  let entries : AddressList := [.ofMailbox "x".toList, jo, .ofMailbox "x@x.org".toList]
  have hknown : ∀ c ∈ entries, e.alias? c = none ∨ e.alias? c = some other := by decide +kernel
  have hrefers {c : Address} {d : Alias} (hc : c ∈ entries) (href : e.Refers c d) : d = other := by
    have hfound := Expander.alias?_eq_some_iff.2 href
    rcases hknown c hc with hnone | hother
    · cases hnone.symm.trans hfound
    · exact Option.some.inj (hfound.symm.trans hother)
  have hreach {c : Address} (hc : e.Reachable a.addresses c) : c ∈ entries := by
    have hfirst : ∀ c ∈ a.addresses, c ∈ entries := by decide
    have hmembers : ∀ c ∈ other.addresses, c ∈ entries := by decide
    induction hc with
    | entry hc => exact hfirst _ hc
    | member _ href hc ih =>
      rw [hrefers ih href] at hc
      exact hmembers _ hc
  have hback : ∀ c, e.Reachable a.addresses c → ¬ e.Refers c a := fun c hc href =>
    absurd (congrArg Alias.name (hrefers (hreach hc) href)) (by decide)
  exact ⟨b, name, t, a, rfl, hname, hfree, ht, hne, hoption, ⟨c, hc, hdone⟩, ha, hback,
    (hexpanded a ha).2 hback⟩

/-- The option that names a group passes the check for safe names, and its line fails. -/
theorem execute_definition_group :
    ¬ ∀ (b : Book) (name t : Text) (l : AddressList), Alias.isSafeName name = true →
      b.aliases.get? name = none → PlainAddresses t l →
      (b.execute (definitionLine name t)).2 = none ∧
        ∃ a, (b.execute (definitionLine name t)).1.aliases.get? name = some a := by
  intro h
  have ht : PlainAddresses "a@x.org".toList [.ofMailbox "a@x.org".toList] := by
    refine ⟨⟨0, by decide +kernel⟩, ?_, ⟨'a', _, rfl, by decide⟩,
      Text.forall_mem_of_all (by decide)⟩
    unfold Mailbox.HasAsciiDomain
    decide
  have hfails := (h plain "-group".toList "a@x.org".toList _ (by decide +kernel) rfl ht).1
  revert hfails
  decide +kernel

end Book
end Recipients
