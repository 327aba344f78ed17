import Recipients.Proofs.Alias.Line

/-
  The tokens of an alias line. What is quoted is read as it was, whatever stands behind it, so the line
  of an alias is one definition: two words, the addresses, and a comment if there is anything for one to
  say (`tokens_line`). No text in it begins another command.
-/

namespace Recipients
namespace Alias

open Command (TokenKind start next comment? isOver)

theorem trim_addresses {t gaps : Text} (hgaps : gaps = [] ∨ gaps = [' ']) :
    (Text.trimStart (t ++ gaps)).trim = t.trim := by
  rw [Text.trim_trimStart]
  rcases hgaps with rfl | rfl
  · rw [List.append_nil]
  · exact Text.trim_concat rfl t

/-- What follows the addresses is the comment, if there is a comment or a tag, up to the end. -/
theorem comment?_writtenComment (a : Alias) :
    ((comment? (start a.writtenComment)).isSome = true ↔ a.comment ≠ none ∨ a.tags ≠ []) ∧
      isOver (start a.writtenComment) = true := by
  obtain ⟨hcomment, htags, hnone⟩ | ⟨hany, t, hsome⟩ := a.writtenComment_cases
  · rw [hnone, hcomment, htags]
    exact ⟨by simp [start, Text.trimStart, comment?], rfl⟩
  · rw [hsome]
    exact ⟨iff_of_true rfl hany, rfl⟩

/-- A quoted word is read up to a blank, a semicolon or a comment behind it, and protected address text
    up to a comment. So the line of an alias is read as the word for a definition, the name, the
    addresses up to blanks around them, and a comment exactly if there is a comment or a tag; then the
    line is over, and it is one command. -/
theorem tokens_line :
    (∀ q r : Text, (∀ c ∈ r.head?, Text.isBlank c = true ∨ c ∈ [';', '#']) →
      next .word (start (Command.quoteWord q ++ r)) = (q, Text.trimStart r)) ∧
    (∀ t r : Text, (∀ c ∈ r.head?, c = '#') →
      next .addresses (start (Command.protect t ++ r)) = (Text.trimStart t, r)) ∧
    ∀ a : Alias, a.name ≠ [] →
      let first := next .word (start a.line)
      let second := next .word first.2
      let third := next .addresses second.2
      first.1 = "alias".toList ∧ second.1 = a.name ∧ third.1.trim = a.addresses.write.trim ∧
        ((comment? third.2).isSome = true ↔ a.comment ≠ none ∨ a.tags ≠ []) ∧
        isOver third.2 = true ∧
        ∃ words, Command.ofLine a.line = [⟨"alias".toList, words⟩] := by
  refine ⟨fun q r hr => ?_, fun t r => Command.next_protect t, fun a hname => ?_⟩
  · have hquoted := Command.spells_quoteWord q
    rw [hquoted.start]
    refine hquoted.next fun c hc => ?_
    simpa [TokenKind.endsAt, or_assoc] using hr c hc
  · have hname' := spells_writtenName hname
    obtain ⟨gaps, hgaps, haddresses⟩ := a.next_addresses
    obtain ⟨words, hcommand⟩ := ofLine_line hname
    have hline := Command.next_definition
      (a.writtenName ++ ' ' :: (Command.protect a.addresses.write ++ a.writtenComment))
    rw [← line_eq, hname'.start] at hline
    obtain ⟨hcomment, hover⟩ := a.comment?_writtenComment
    simp only [hline, hname'.next_space, haddresses, true_and]
    exact ⟨rfl, trim_addresses hgaps, hcomment, hover, _, hcommand⟩

/-- A quoted word with a quote in it and another command behind it, protected text with all kinds of
    marks before a comment, and an alias whose parts look like commands. -/
theorem tokens_line_marks :
    let a : Alias :=
      { name := "x; unalias *".toList
        addresses := [{ personal := some "a; alias b c #".toList, mailbox := some "a@x".toList }]
        comment := some "; unalias *".toList }
    next .word (start (Command.quoteWord "it's #1".toList ++ "; x".toList)) =
        ("it's #1".toList, "; x".toList) ∧
      next .addresses (start (Command.protect " \\n'\"$ ; ".toList ++ "# x".toList)) =
        ("\\n'\"$ ; ".toList, "# x".toList) ∧
      a.name ≠ [] ∧ (next .word (start a.line)).1 = "alias".toList ∧
      ∃ words, Command.ofLine a.line = [⟨"alias".toList, words⟩] := by
  intro a
  obtain ⟨hword, haddresses, hline⟩ := tokens_line
  have hname : a.name ≠ [] := by decide
  have hsemicolon : ∀ c ∈ "; x".toList.head?, Text.isBlank c = true ∨ c ∈ [';', '#'] := by
    intro c hc
    cases hc
    decide
  have hsign : ∀ c ∈ "# x".toList.head?, c = '#' := by
    intro c hc
    cases hc
    rfl
  obtain ⟨hfirst, -, -, -, -, hcommand⟩ := hline a hname
  exact ⟨hword _ _ hsemicolon, haddresses _ _ hsign, hname, hfirst, hcommand⟩

end Alias
end Recipients
