import Recipients.Proofs.Address.Made
import Recipients.Proofs.Book.Steps
import Recipients.Proofs.Domain.Converter

/-
  Everything that a book holds is in wire form. A list is brought into wire form before it goes into
  an alias or a group, and no other step puts entries there (`IsWire.step`). So it is after any
  series of lines, texts and new aliases, also where some of them fail (`isWire_changed`). Of the
  converter that the book works with, only one thing is assumed: what it gives for the wire is ASCII.
-/

namespace Recipients

namespace Group

theorem isWire_addAddresses {g : Group} {l : AddressList} (hg : g.addresses.IsWire) (hl : l.IsWire) :
    (g.addAddresses l).addresses.IsWire :=
  hg.append (hl.mono (List.filter_subset_self l))

theorem removeAddresses_subset (g : Group) (l : AddressList) :
    (g.removeAddresses l).addresses ⊆ g.addresses :=
  List.foldlRecOn (motive := fun kept : AddressList => kept ⊆ g.addresses) l.mailboxes _
    (List.Subset.refl _) fun _ hkept _ _ => List.Subset.trans (List.filter_subset_self _) hkept

end Group

namespace AliasRegistry

theorem mem_append {r : AliasRegistry} {a c : Alias} (h : c ∈ (r.append a).aliases) :
    c ∈ r.aliases ∨ c.addresses = a.addresses := by
  rcases List.mem_append.1 h with h | h
  · exact .inl h
  · exact .inr (congrArg Alias.addresses (List.mem_singleton.1 h))

/-- An alias has its entries from before, or from its new definition. -/
theorem mem_define {r : AliasRegistry} {a c : Alias} (h : c ∈ (r.define a).aliases) :
    c ∈ r.aliases ∨ c.addresses = a.addresses := by
  unfold define at h
  split at h
  · rcases List.mem_or_eq_of_mem_set h with hc | rfl
    · exact .inl hc
    · exact .inr rfl
  · exact mem_append h

theorem mem_create {r : AliasRegistry} {a c : Alias} (h : c ∈ (r.create a).1.aliases) :
    c ∈ r.aliases ∨ c.addresses = a.addresses := by
  unfold create at h
  split at h
  · exact .inl h
  · exact mem_append h

theorem delete_subset (r : AliasRegistry) (name : Text) : (r.delete name).aliases ⊆ r.aliases := by
  unfold delete
  split
  · exact List.Subset.refl _
  · exact List.eraseP_subset

end AliasRegistry

namespace Book

/-- Every mailbox in an alias or in a group has an ASCII domain or none. -/
structure IsWire (b : Book) : Prop where
  aliases : ∀ a ∈ b.aliases.aliases, a.addresses.IsWire
  groups : ∀ g ∈ b.groups, g.addresses.IsWire

theorem Reads.isWire {b : Book} {l : AddressList} (hascii : b.tools.converter.GivesAscii)
    (h : b.Reads l) : l.IsWire := by
  obtain ⟨t, bad, badDomain, hread⟩ := h
  obtain ⟨read, n, hparse, hwire⟩ := readMembers_eq_ok_iff.1 hread
  have hparsed := AddressList.parsed_of_parseFreeOnto hparse
  have hpolicy : b.domainPolicy.converter.GivesAscii := hascii
  exact AddressList.isWire_of_toWire hpolicy (fun a ha => (hparsed a ha).made) hwire

variable {b b' : Book}

theorem IsWire.step (h : b.IsWire) (hascii : b.tools.converter.GivesAscii) (hstep : Step b b') :
    b'.IsWire := by
  cases hstep with
  | define hread =>
    refine ⟨fun c hc => ?_, h.groups⟩
    rcases AliasRegistry.mem_define hc with hc | hc
    · exact h.aliases c hc
    · exact hc ▸ hread.isWire hascii
  | delete name => exact ⟨fun c hc => h.aliases c (AliasRegistry.delete_subset _ name hc), h.groups⟩
  | deleteAll => exact ⟨fun c hc => (nomatch hc), h.groups⟩
  | groups change hread =>
    refine ⟨h.aliases, ?_⟩
    refine GroupRegistry.All.apply (Q := fun g => g.addresses.IsWire) (fun _ m hm => ?_) change
      (fun ns l hl g hg => ?_) (fun l g hg => hg.mono (g.removeAddresses_subset l))
      (fun _ _ hg => hg) (fun _ _ hg => hg) h.groups
    · cases hm
    · exact Group.isWire_addAddresses hg ((hread ns l hl).isWire hascii)
  | alternates | lists => exact ⟨h.aliases, h.groups⟩

theorem IsWire.steps (h : b.IsWire) (hascii : b.tools.converter.GivesAscii) (hsteps : Steps b b') :
    b'.IsWire := by
  have hboth : b'.tools.converter.GivesAscii ∧ b'.IsWire := by
    refine hsteps.induction (P := fun b => b.tools.converter.GivesAscii ∧ b.IsWire) ?_ ⟨hascii, h⟩
    rintro c c' hstep ⟨hascii, hc⟩
    exact ⟨hstep.tools_eq ▸ hascii, hc.step hascii hstep⟩
  exact hboth.2

theorem IsWire.create (h : b.IsWire) (hascii : b.tools.converter.GivesAscii) {a : Alias}
    (ha : ∀ e ∈ a.addresses, e.Made) : (b.create a).1.IsWire := by
  unfold Book.create
  split
  · exact h
  · rename_i addresses hwire
    have hpolicy : b.domainPolicy.converter.GivesAscii := hascii
    have hread := AddressList.isWire_of_toWire hpolicy ha hwire
    refine ⟨fun c hc => ?_, h.groups⟩
    rcases AliasRegistry.mem_create hc with hc | hc
    · exact h.aliases c hc
    · exact hc ▸ hread

/-! ## Series of changes -/

/-- What is done to a book from outside. -/
inductive Change where
  | execute (line : Text)
  | source (t : Text)
  | create (a : Alias)

/-- The book after a change, also where it fails. -/
def apply (b : Book) : Change → Book
  | .execute line => (b.execute line).1
  | .source t => (b.source t).1
  | .create a => (b.create a).1

/-- The entries of a new alias are such as can come about. -/
def Change.IsMade : Change → Prop
  | .create a => ∀ e ∈ a.addresses, e.Made
  | .execute _ | .source _ => True

theorem tools_create (b : Book) (a : Alias) : (b.create a).1.tools = b.tools := by
  unfold create
  split <;> rfl

theorem tools_apply (b : Book) (c : Change) : (b.apply c).tools = b.tools := by
  cases c with
  | execute line => exact (steps_execute b line).tools_eq
  | source t => exact (steps_source b t).tools_eq
  | create a => exact tools_create b a

theorem IsWire.apply (h : b.IsWire) (hascii : b.tools.converter.GivesAscii) {c : Change}
    (hc : c.IsMade) : (b.apply c).IsWire := by
  cases c with
  | execute line => exact h.steps hascii (steps_execute b line)
  | source t => exact h.steps hascii (steps_source b t)
  | create a => exact h.create hascii hc

/-- After any changes to a new book, failed ones included, every mailbox in its aliases and groups
    has an ASCII domain or none, whatever the tools of the book do otherwise. -/
theorem isWire_changed {tools : Tools} (hascii : tools.converter.GivesAscii) {settings : Settings}
    {environment : Environment} {directory : Directory}
    (hb : empty tools settings environment directory = .ok b) {changes : List Change}
    (hmade : ∀ c ∈ changes, c.IsMade) : (changes.foldl apply b).IsWire := by
  have hnew : b.tools.converter.GivesAscii ∧ b.IsWire := by
    obtain ⟨nameMask, rfl⟩ := eq_of_empty hb
    exact ⟨hascii, fun _ ha => (nomatch ha), fun _ hg => (nomatch hg)⟩
  have hend := List.foldlRecOn (motive := fun b : Book => b.tools.converter.GivesAscii ∧ b.IsWire)
    changes apply hnew fun b h c hc => ⟨b.tools_apply c ▸ h.1, h.2.apply h.1 (hmade c hc)⟩
  exact hend.2

/-- A line, a text whose second line fails, and a new alias, with domains that are not ASCII; and the
    same with the library's own tools. -/
theorem isWire_changed_three :
    let tools : Tools := ⟨.standard, .knowing "xn--bcher-kva.org".toList "bücher.org".toList⟩
    let b : Book := { plain with tools }
    let changes : List Change :=
      [.execute "group -group g -addr c@bücher.org".toList,
        .source "alias a a@bücher.org\nalias z".toList,
        .create { name := "b".toList, addresses := [.ofMailbox "b@x.org".toList] }]
    tools.converter.GivesAscii ∧ empty tools {} {} [] = .ok b ∧
      (changes.foldl apply b).aliases.aliases.map (fun a => a.addresses.mailboxes) =
        [["a@xn--bcher-kva.org".toList], ["b@x.org".toList]] ∧
      (changes.foldl apply b).IsWire ∧ (changes.foldl apply plain).IsWire := by
  intro tools b changes
  have hascii : tools.converter.GivesAscii := Domain.Converter.knowing_givesAscii (by decide)
  have hmade : ∀ c ∈ changes, c.IsMade := by
    intro c hc
    simp only [changes, List.mem_cons, List.not_mem_nil, or_false] at hc
    obtain rfl | rfl | rfl := hc
    · trivial
    · trivial
    · intro e he
      rw [List.mem_singleton.1 he]
      exact .recipient none _
  exact ⟨hascii, empty_plain_with _, by decide +kernel,
    isWire_changed hascii (empty_plain_with _) hmade,
    isWire_changed Domain.Converter.standard_givesAscii empty_plain hmade⟩

end Book
end Recipients
