import Recipients.Command.Lines
import Recipients.Proofs.AddressList.Written
import Recipients.Proofs.Alias.Comment
import Recipients.Proofs.Command.Quoting
import Recipients.Proofs.Mailbox

/-
  The line of an alias. An alias that can be saved (`Savable`) has a line that is one line of a
  text (`Savable.not_feed`, `Savable.not_return`, `Savable.finished`), and that line is one command
  with the name of the alias as its first word and its addresses after that (`ofLine_line`).
-/

namespace Recipients

/-- Name and mailbox have no line feed. -/
def Address.IsOneLine (a : Address) : Prop :=
  (∀ n ∈ a.personal, '\n' ∉ n) ∧ ∀ m ∈ a.mailbox, '\n' ∉ m

namespace Alias

/-- The alias without the form of its domains. -/
def unconverted (a : Alias) : Alias := { a with addresses := a.addresses.map Address.unconverted }

/-- What an alias has to be to be read back from its line. -/
structure Savable (a : Alias) : Prop where
  /-- The name is one word of one line, and not the option that names a group. -/
  named : a.name ≠ []
  name_feed : '\n' ∉ a.name
  name_option : a.name.alike "-group".toList = false
  /-- The addresses can be read from their written form. -/
  wellFormed : a.addresses.WellFormed
  recipients : 0 < a.addresses.countRecipients
  ascii : ∀ m ∈ a.addresses.mailboxes, Mailbox.HasAsciiDomain m
  oneLine : ∀ e ∈ a.addresses, e.IsOneLine
  /-- No blank stands in front of the addresses, where it would fall away. -/
  start : a.addresses.write.head?.any Text.isBlank = false
  annotated : a.Annotated
  /-- The line does not ask for another one. -/
  backslash : a.line.getLast? ≠ some '\\'

/-! ## The line as text -/

theorem line_eq (a : Alias) :
    a.line = Command.aliasWord ++ ' ' :: (a.writtenName ++ ' ' ::
      (Command.protect a.addresses.write ++ a.writtenComment)) := by
  unfold line
  rw [show "alias ".toList = Command.aliasWord ++ [' '] from rfl]
  simp only [List.append_assoc, List.cons_append, List.nil_append]

theorem mem_writtenName {a : Alias} {c : Char} (hc : c ∈ a.writtenName) :
    c ∈ ['\'', '\\'] ∨ c ∈ a.name := by
  unfold writtenName at hc
  split at hc
  · exact .inr hc
  · simp only [Command.quoteWord, List.cons_append, List.mem_cons, List.mem_append,
      List.mem_flatMap, List.not_mem_nil, or_false] at hc
    rcases hc with rfl | ⟨d, hd, hc⟩ | rfl
    · exact .inl (by decide)
    · split at hc
      · exact .inl (Text.forall_mem_of_all (by decide) c hc)
      · rw [List.mem_singleton.1 hc]
        exact .inr hd
    · exact .inl (by decide)

theorem spells_writtenName {a : Alias} (h : a.name ≠ []) : Command.Spells a.writtenName a.name := by
  unfold writtenName
  split
  · rename_i hsafe
    exact Command.spells_name h hsafe
  · exact Command.spells_quoteWord a.name

/-- The line is one command, whose first word is the name with the rest of the line after it. -/
theorem ofLine_line {a : Alias} (hname : a.name ≠ []) :
    ∃ words, Command.ofLine a.line =
      [⟨Command.aliasWord,
        ⟨a.name, Command.start (Command.protect a.addresses.write ++ a.writtenComment)⟩ :: words⟩] := by
  rw [line_eq]
  exact Command.ofLine_definition (spells_writtenName hname) _

/-- What follows the addresses: nothing, or a comment with a space before it. -/
theorem writtenComment_cases (a : Alias) :
    (a.comment = none ∧ a.tags = [] ∧ a.writtenComment = []) ∨
      ((a.comment ≠ none ∨ a.tags ≠ []) ∧ ∃ t, a.writtenComment = [' ', '#', ' '] ++ t) := by
  unfold writtenComment
  cases a.comment with
  | none =>
    cases a.tags with
    | nil => exact .inl ⟨rfl, rfl, rfl⟩
    | cons t ts => exact .inr ⟨.inr (List.cons_ne_nil t ts), _, rfl⟩
  | some c => exact .inr ⟨.inl (Option.some_ne_none c), _, rfl⟩

/-- The addresses are read up to the comment. -/
theorem next_addresses (a : Alias) :
    ∃ gaps : Text, (gaps = [] ∨ gaps = [' ']) ∧
      Command.next .addresses
          (Command.start (Command.protect a.addresses.write ++ a.writtenComment)) =
        (Text.trimStart (a.addresses.write ++ gaps), Command.start a.writtenComment) := by
  obtain ⟨-, -, hnone⟩ | ⟨-, t, hsome⟩ := a.writtenComment_cases
  · refine ⟨[], .inl rfl, ?_⟩
    have hread : Command.next .addresses (Command.start (Command.protect a.addresses.write ++ [])) = _ :=
      Command.next_protect a.addresses.write fun _ hc => nomatch hc
    rw [hnone, hread, List.append_nil]
    rfl
  · -- The space before the comment is read as one that the addresses end with.
    have hspace : Command.protect a.addresses.write ++ ([' ', '#', ' '] ++ t) =
        Command.protect (a.addresses.write ++ [' ']) ++ '#' :: ' ' :: t := by
      simp [Command.protect, Command.protectedMarks]
    refine ⟨[' '], .inr rfl, ?_⟩
    rw [hsome, hspace]
    exact Command.next_protect _ fun c hc => (Option.some.inj hc).symm

namespace Savable

variable {a : Alias}

theorem addresses_ne_nil (ha : a.Savable) : a.addresses ≠ [] := by
  intro h
  have := ha.recipients
  rw [h] at this
  cases this

theorem mem_writtenComment (ha : a.Savable) {c : Char} (hc : c ∈ a.writtenComment) :
    c = ' ' ∨ Text.isBlank c = false := by
  rcases annotate_writtenComment ha.annotated with ⟨hnil, _⟩ | ⟨t, ht, hblank, _⟩
  · rw [hnil] at hc
    cases hc
  · rw [ht] at hc
    simp only [List.cons_append, List.mem_cons, List.nil_append] at hc
    rcases hc with rfl | rfl | rfl | hc
    · exact .inl rfl
    · exact .inr (by decide)
    · exact .inl rfl
    · exact hblank c hc

theorem not_feed (ha : a.Savable) : '\n' ∉ a.line := by
  intro hc
  rw [line_eq] at hc
  simp only [List.mem_append, List.mem_cons] at hc
  rcases hc with hc | hc | hc | hc | hc | hc
  · exact absurd hc (by decide)
  · cases hc
  · rcases mem_writtenName hc with hc | hc
    · exact absurd hc (by decide)
    · exact ha.name_feed hc
  · cases hc
  · rcases Command.mem_protect hc with hc | hc
    · cases hc
    · rcases AddressList.mem_write hc with hc | ⟨e, he, ⟨n, hn, hc⟩ | ⟨m, hm, hc⟩⟩
      · exact absurd hc (by decide)
      · exact (ha.oneLine e he).1 n hn hc
      · exact (ha.oneLine e he).2 m hm hc
  · rcases ha.mem_writtenComment hc with hc | hc
    · cases hc
    · cases hc

theorem not_return (ha : a.Savable) : a.line.getLast? ≠ some '\r' := by
  obtain ⟨c, hlast, hc⟩ := AddressList.write_getLast? ha.wellFormed ha.addresses_ne_nil
  have haddresses := Command.protect_getLast? hlast
  unfold line
  rw [List.getLast?_append]
  cases h : a.writtenComment.getLast? with
  | none =>
    have hfront : (' ' :: Command.protect a.addresses.write).getLast? = some c :=
      Text.getLast?_append_of_eq_some haddresses [' ']
    rw [Option.none_or, Text.getLast?_append_of_eq_some hfront]
    simpa using hc
  | some d =>
    rw [Option.some_or]
    rintro hd
    rw [Option.some.inj hd] at h
    rcases ha.mem_writtenComment (List.mem_of_getLast? h) with h | h
    · cases h
    · cases h

/-- No blank of the addresses falls away. -/
theorem trimStart_write (ha : a.Savable) (gaps : Text) :
    Text.trimStart (a.addresses.write ++ gaps) = a.addresses.write ++ gaps := by
  obtain ⟨c, hlast, -⟩ := AddressList.write_getLast? ha.wellFormed ha.addresses_ne_nil
  have hstart := ha.start
  cases hwrite : a.addresses.write with
  | nil =>
    rw [hwrite] at hlast
    cases hlast
  | cons d t =>
    rw [hwrite] at hstart
    exact Text.trimStart_cons hstart (t ++ gaps)

/-- What follows the addresses gives the comment and the tags to an alias without any. -/
theorem annotate_rest (ha : a.Savable) (plain : Alias) (hcomment : plain.comment = none)
    (htags : plain.tags = []) :
    (match Command.comment? (Command.start a.writtenComment) with
      | some comment => plain.annotate comment
      | none => plain) = { plain with comment := a.comment, tags := a.tags } := by
  rcases annotate_writtenComment ha.annotated with ⟨hnil, hnone, hempty⟩ | ⟨t, ht, _, hread⟩
  · rw [hnil, hnone, hempty, ← hcomment, ← htags]
    rfl
  · rw [ht]
    exact hread plain htags

theorem finished (ha : a.Savable) : Command.unfinished? a.line = none := by
  rw [Command.unfinished?, Text.beforeSuffix?_eq_none_iff.2 ha.backslash]
  rfl

end Savable
end Alias
end Recipients
