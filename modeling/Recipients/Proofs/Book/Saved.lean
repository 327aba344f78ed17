import Recipients.Book.Source
import Recipients.Proofs.Alias.Line
import Recipients.Proofs.Book.GroupWords
import Recipients.Proofs.Command.Lines

/-
  Saved aliases are read back. The line of an alias defines it (`execute_line`), and a book that
  runs the lines of aliases with different names holds these aliases in this order
  (`source_lines`). Only the form of their domains is not saved.
-/

namespace Recipients

/-! ## Wire form -/

/-- With an ASCII domain, an entry in wire form differs in nothing but the form. -/
theorem Address.toWire_of_hasAsciiDomain {a : Address} (h : ∀ m ∈ a.mailbox, Mailbox.HasAsciiDomain m)
    (policy : DomainPolicy) : ∃ w, a.toWire policy = .ok w ∧ w.unconverted = a.unconverted := by
  unfold toWire
  cases hm : a.mailbox with
  | none => exact ⟨a, rfl, rfl⟩
  | some m =>
    simp only
    split
    · exact ⟨a, rfl, rfl⟩
    · rw [Mailbox.toWire_of_hasAsciiDomain (h m hm)]
      exact ⟨_, rfl, by simp [unconverted, hm]⟩

theorem AddressList.toWire_of_hasAsciiDomain {l : AddressList}
    (h : ∀ m ∈ l.mailboxes, Mailbox.HasAsciiDomain m) (policy : DomainPolicy) :
    ∃ w, toWire policy l = (w, []) ∧ w.map Address.unconverted = l.map Address.unconverted := by
  have hentry : ∀ a ∈ l, ∃ w, a.toWire policy = .ok w ∧ w.unconverted = a.unconverted :=
    fun a ha => Address.toWire_of_hasAsciiDomain
      (fun m hm => h m (List.mem_filterMap.2 ⟨a, ha, hm⟩)) policy
  refine ⟨_, Prod.ext rfl (List.filterMap_eq_nil_iff.2 fun a ha => ?_), ?_⟩
  · obtain ⟨w, hw, _⟩ := hentry a ha
    rw [hw]
  · rw [toWire, List.map_map]
    refine List.map_congr_left fun a ha => ?_
    obtain ⟨w, hw, hsame⟩ := hentry a ha
    rw [Function.comp_apply, hw]
    exact hsame

theorem AddressList.mailboxes_unconverted (l : AddressList) :
    mailboxes (l.map Address.unconverted) = l.mailboxes := by
  rw [mailboxes, List.filterMap_map]
  rfl

theorem AddressList.unconverted_unconverted (l : AddressList) :
    (l.map Address.unconverted).map Address.unconverted = l.map Address.unconverted := by
  rw [List.map_map]
  rfl

namespace Book

/-! ## One line -/

/-- A text with a recipient, and with ASCII domains only, is read whatever its errors would be called. -/
theorem readMembers_of_hasAsciiDomain (b : Book) {t : Text} {l : AddressList} {n : Nat}
    (hread : AddressList.parseFreeOnto [] t = (l, .ok (n + 1)))
    (hascii : ∀ m ∈ l.mailboxes, Mailbox.HasAsciiDomain m) :
    ∃ w, (∀ bad badDomain, b.readMembers t bad badDomain = .ok w) ∧
      w.map Address.unconverted = l.map Address.unconverted := by
  obtain ⟨w, hw, hsame⟩ := AddressList.toWire_of_hasAsciiDomain hascii b.domainPolicy
  exact ⟨w, fun _ _ => readMembers_eq_ok_iff.2 ⟨l, n, hread, hw⟩, hsame⟩

/-- The written list, with a space after it or without, is read as the list. -/
theorem readMembers_write (b : Book) {l : AddressList} (hl : l.WellFormed)
    (hcount : 0 < l.countRecipients) (hascii : ∀ m ∈ l.mailboxes, Mailbox.HasAsciiDomain m)
    {gaps : Text} (hgaps : gaps = [] ∨ gaps = [' ']) :
    ∃ w, (∀ bad badDomain, b.readMembers (l.write ++ gaps) bad badDomain = .ok w) ∧
      w.map Address.unconverted = l.map Address.unconverted := by
  obtain ⟨k, hk⟩ := Nat.exists_eq_succ_of_ne_zero (Nat.ne_of_gt hcount)
  have hread := AddressList.parseFreeOnto_write hl hcount hgaps
  rw [hk] at hread
  rw [← AddressList.mailboxes_unconverted] at hascii
  obtain ⟨w, hw, hsame⟩ := b.readMembers_of_hasAsciiDomain hread hascii
  exact ⟨w, hw, by rw [hsame, AddressList.unconverted_unconverted]⟩

/-- The alias that a definition makes out of what it reads after the name. -/
theorem defineAlias_of_read {b : Book} {name after text rest : Text} {w : AddressList}
    (hnext : Command.next .addresses after = (text, rest))
    (hread : ∀ bad badDomain, b.readMembers text bad badDomain = .ok w) :
    b.defineAlias [] ⟨name, after⟩ =
      ({ b with aliases := b.aliases.define (match Command.comment? rest with
          | some comment => Alias.annotate { name, addresses := w } comment
          | none => { name, addresses := w }) }, .complete) := by
  unfold defineAlias
  simp only [hnext, hread]
  rfl

/-- The addresses and the comment of an alias line, after its name. -/
theorem defineAlias_written (b : Book) {a : Alias} (ha : a.Savable) :
    ∃ read : Alias, read.unconverted = a.unconverted ∧
      b.defineAlias [] ⟨a.name,
          Command.start (Command.protect a.addresses.write ++ a.writtenComment)⟩ =
        ({ b with aliases := b.aliases.define read }, .complete) := by
  obtain ⟨gaps, hgaps, hnext⟩ := a.next_addresses
  rw [ha.trimStart_write] at hnext
  obtain ⟨w, hread, hsame⟩ := b.readMembers_write ha.wellFormed ha.recipients ha.ascii hgaps
  have hfound := ha.annotate_rest { name := a.name, addresses := w } rfl rfl
  refine ⟨{ a with addresses := w }, by rw [Alias.unconverted, Alias.unconverted, hsame], ?_⟩
  rw [defineAlias_of_read hnext hread]
  exact congrArg (fun read : Alias => ({ b with aliases := b.aliases.define read },
    Ending.complete)) hfound

theorem perform_definition (b : Book) (words : List Word) :
    b.perform ⟨Command.aliasWord, words⟩ = b.performDefine words := by
  cases words <;> rfl

theorem performDefine_cons (b : Book) {w : Word} (hw : Command.isGroupOption w = false)
    (ws : List Word) : b.performDefine (w :: ws) = b.defineAlias [] w := by
  unfold performDefine
  rw [Command.grouped.eq_def]
  cases ws <;> simp only [hw, Bool.false_eq_true, ↓reduceIte] <;> rfl

/-- The line of an alias that can be saved defines that alias. -/
theorem execute_line (b : Book) {a : Alias} (ha : a.Savable) :
    ∃ read : Alias, read.unconverted = a.unconverted ∧
      b.execute a.line = ({ b with aliases := b.aliases.define read }, none) := by
  obtain ⟨words, hcommands⟩ := Alias.ofLine_line ha.named
  obtain ⟨read, hsame, hdefine⟩ := b.defineAlias_written ha
  have hperform : b.perform ⟨Command.aliasWord, ⟨a.name,
      Command.start (Command.protect a.addresses.write ++ a.writtenComment)⟩ :: words⟩ =
        ({ b with aliases := b.aliases.define read }, .complete) := by
    have hoption : Command.isGroupOption ⟨a.name,
        Command.start (Command.protect a.addresses.write ++ a.writtenComment)⟩ = false :=
      ha.name_option
    rw [perform_definition, performDefine_cons b hoption, hdefine]
  refine ⟨read, hsame, ?_⟩
  rw [execute, hcommands, run, hperform]
  rfl

/-! ## Many lines -/

/-- A name that is free is added at the end. -/
theorem define_of_free {r : AliasRegistry} {a : Alias}
    (h : ∀ c ∈ r.aliases, c.name.lower ≠ a.name.lower) : r.define a = r.append a := by
  have hnone : r.get? a.name = none := by
    rw [AliasRegistry.get?, List.find?_eq_none]
    intro c hc hnamed
    exact h c hc (Text.alike_iff.1 hnamed)
  rw [AliasRegistry.define, hnone]

/-- The lines of aliases whose names are free and different add these aliases at the end. -/
theorem runLines_written {as : List Alias} (hs : ∀ a ∈ as, a.Savable) (b : Book) (number : Nat)
    (hnames : ((b.aliases.aliases ++ as).map fun a => a.name.lower).Nodup) :
    ∃ b' : Book, b.runLines (Command.joinLines number none
        (Text.lines (as.flatMap fun a => a.line ++ ['\n']))) = (b', []) ∧
      b'.aliases.aliases.map Alias.unconverted =
        (b.aliases.aliases ++ as).map Alias.unconverted := by
  induction as generalizing b number with
  | nil => exact ⟨b, rfl, by rw [List.append_nil]⟩
  | cons a as ih =>
    have ha := hs a List.mem_cons_self
    obtain ⟨read, hsame, hexecute⟩ := b.execute_line ha
    have hname : read.unconverted.name = a.unconverted.name := congrArg Alias.name hsame
    change read.name = a.name at hname
    have hfree : ∀ c ∈ b.aliases.aliases, c.name.lower ≠ read.name.lower := by
      intro c hc heq
      rw [List.map_append, List.nodup_append] at hnames
      exact hnames.2.2 _ (List.mem_map_of_mem hc) _ (List.mem_map_of_mem List.mem_cons_self)
        (heq.trans (congrArg Text.lower hname))
    have haliases : (b.aliases.define read).aliases = b.aliases.aliases ++ [read] := by
      rw [define_of_free hfree]
      rfl
    obtain ⟨b', hrun, hb'⟩ := ih (fun c hc => hs c (List.mem_cons_of_mem a hc))
      { b with aliases := b.aliases.define read } (number + 1) (by
        rw [haliases]
        simpa [hname] using hnames)
    refine ⟨b', ?_, ?_⟩
    · rw [List.flatMap_cons, List.append_assoc, List.singleton_append,
        Text.lines_line ha.not_feed ha.not_return, Command.joinLines_line ha.finished, runLines,
        hexecute, hrun]
      rfl
    · rw [hb', haliases]
      simp [hsame]

/-- Saved aliases are read back. A new book that runs the lines of aliases, no two of which have
    the same name, has nothing to report and holds exactly these aliases in this order. -/
theorem source_lines {tools : Tools} {settings : Settings} {environment : Environment}
    {directory : Directory} {b : Book} (hb : empty tools settings environment directory = .ok b)
    {as : List Alias} (hs : ∀ a ∈ as, a.Savable) (hnames : (as.map fun a => a.name.lower).Nodup) :
    (b.source (as.flatMap fun a => a.line ++ ['\n'])).2 = [] ∧
    (b.source (as.flatMap fun a => a.line ++ ['\n'])).1.aliases.aliases.map Alias.unconverted =
      as.map Alias.unconverted := by
  have hnew : b.aliases.aliases = [] := by
    obtain ⟨nameMask, rfl⟩ := eq_of_empty hb
    rfl
  obtain ⟨b', hrun, hb'⟩ := runLines_written hs b 1 (by rwa [hnew, List.nil_append])
  rw [hnew, List.nil_append] at hb'
  rw [source, Command.logicalLines, hrun]
  exact ⟨rfl, hb'⟩

/-- Two aliases: a name in quotes, a quoted personal name, and a number sign in a mailbox; and an
    alias of a local mailbox. -/
theorem source_lines_two :
    ∃ (b : Book) (as : List Alias), empty .standard {} {} [] = .ok b ∧ (∀ a ∈ as, a.Savable) ∧
      (as.map fun a => a.name.lower).Nodup ∧
      as.map Alias.line =
        ["alias 'it'\\''s' \\\"Jo D.\\\" <jo@x.org>, a\\#b@[1] # old friends tags:x,y".toList,
          "alias WORK me".toList] ∧
      (b.source (as.flatMap fun a => a.line ++ ['\n'])).2 = [] ∧
      (b.source (as.flatMap fun a => a.line ++ ['\n'])).1.aliases.aliases.map Alias.unconverted =
        as.map Alias.unconverted := by
  have hmask : (Pattern.compile .standard "^[^,]*".toList false).isSome = true := by decide +kernel
  obtain ⟨nameMask, hmask⟩ := Option.isSome_iff_exists.1 hmask
  have hb : empty .standard {} {} [] =
      .ok { tools := .standard, settings := {}, environment := {}, directory := [], nameMask } := by
    rw [empty, show Pattern.compile Tools.standard.engine _ false = _ from hmask]
  have hfirst : Alias.Savable
      { name := "it's".toList
        addresses := [{ personal := some "Jo D.".toList, mailbox := some "jo@x.org".toList },
          { mailbox := some "a#b@[1]".toList }]
        comment := some "old friends".toList, tags := ["x".toList, "y".toList] } := by
    refine ⟨by decide, by decide, by decide, ?_, by decide, ?_, ?_, by decide, ?_, by decide +kernel⟩
    · intro e he
      simp only [List.mem_cons, List.not_mem_nil, or_false] at he
      rcases he with rfl | rfl
      · refine .recipient _ rfl rfl (.qualified (t := "jo".toList) (d := "x.org".toList)
          (by decide) (by decide)) fun n hn => ?_
        cases hn
        exact ⟨by decide, .inl ⟨'.', by decide, by decide⟩⟩
      · exact .recipient _ rfl rfl (.qualified (t := "a#b".toList) (d := "[1]".toList)
          (by decide) (by decide))
          (fun _ h => (nomatch h))
    · unfold Mailbox.HasAsciiDomain
      decide
    · unfold Address.IsOneLine
      decide
    · exact ⟨"old friends tags:x,y".toList, by decide⟩
  have hsecond : Alias.Savable
      { name := "WORK".toList, addresses := [{ mailbox := some "me".toList }] } := by
    refine ⟨by decide, by decide, by decide, ?_, by decide, ?_, ?_, by decide, ?_, by decide +kernel⟩
    · intro e he
      rw [List.mem_singleton.1 he]
      exact .recipient _ rfl rfl (.bare (by decide))
        (fun _ h => (nomatch h))
    · unfold Mailbox.HasAsciiDomain
      decide
    · unfold Address.IsOneLine
      decide
    · exact ⟨[], by decide⟩
  have hs := List.forall_mem_cons.2 ⟨hfirst, List.forall_mem_singleton.2 hsecond⟩
  exact ⟨_, _, hb, hs, by decide, by decide +kernel, source_lines hb hs (by decide)⟩

end Book
end Recipients
