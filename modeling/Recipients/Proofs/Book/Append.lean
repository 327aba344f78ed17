import Recipients.Book.Source
import Recipients.Proofs.Alias.File
import Recipients.Proofs.Alias.Line
import Recipients.Proofs.Command.Lines

/-
  Running a file to which an alias has been added (`source_append`). Where the line of the alias can
  be added to the text of the file (`Command.Framed`), the file does what it did before, and after
  that what the line does. Adding an alias does not see to it: a text that ends in a carriage return
  or in a line that goes on takes the line along, and what follows a line feed in the alias is run
  as a command of its own (`source_append_injected`).
-/

namespace Recipients
namespace Book

open Text (lines finished)
open Command (logicalLines IsAdded Framed)

theorem runLines_append (b : Book) (ls more : List (Nat × Text)) :
    b.runLines (ls ++ more) = (((b.runLines ls).1.runLines more).1,
      (b.runLines ls).2 ++ ((b.runLines ls).1.runLines more).2) := by
  induction ls generalizing b with
  | nil => rfl
  | cons l ls ih =>
    obtain ⟨number, line⟩ := l
    rw [List.cons_append, runLines, ih, runLines, List.append_assoc]

theorem runLines_singleton (b : Book) (number : Nat) (line : Text) :
    b.runLines [(number, line)] =
      ((b.execute line).1, ((b.execute line).2.map (number, ·)).toList) := by
  rw [runLines, runLines, List.append_nil]

/-- The book after a text and one more line, with what was wrong in the text and in the line. -/
def sourceThen (b : Book) (t line : Text) : Book × List (Nat × CommandError) :=
  let before := b.source t
  let added := before.1.execute line
  (added.1, before.2 ++ (added.2.map ((lines t).length + 1, ·)).toList)

theorem source_of_isAdded {t line : Text} (h : IsAdded t line) (b : Book) :
    b.source (finished t ++ (line ++ ['\n'])) = b.sourceThen t line := by
  rw [source, h, runLines_append, runLines_singleton]
  rfl

/-- No mark and no line end begins the line of an alias. -/
theorem isAdded_line_iff (t : Text) (a : Alias) : IsAdded t a.line ↔ Framed t a.line := by
  obtain ⟨r, hr⟩ : ∃ r, a.line = 'a' :: r := ⟨_, by rw [Alias.line_eq]; rfl⟩
  rw [hr]
  exact Command.isAdded_iff (by decide)

/-- A file of aliases in UTF-8 that an alias has been added to. The line of the alias is one more
    logical line after those that the file had, exactly where it can be added to the text; and then
    every book that runs the file comes to what it comes to with the text before and with the line
    after that. -/
theorem source_append {f : AliasFile} (hf : f.charset = .utf8) {d d' : Disk} {a : Alias} {t : Text}
    (ht : Utf8.decode (d.held f.path) = some t)
    (h : AliasFile.append Disk.access f a d = (.ok (), d')) :
    ∃ t', AliasFile.read Disk.access f d' = (.ok t', d') ∧
      (logicalLines (lines t') = logicalLines (lines t) ++ [((lines t).length + 1, a.line)] ↔
        Framed t a.line) ∧
      (Framed t a.line → ∀ b : Book, b.source t' = b.sourceThen t a.line) :=
  ⟨_, AliasFile.read_append hf ht h, isAdded_line_iff t a,
    fun hframed => source_of_isAdded hframed.isAdded⟩

/-- An alias added to a file whose last line was not finished. -/
theorem source_append_unfinished :
    ∃ (a : Alias) (d' : Disk), a.line = "alias team t@x.org".toList ∧
      AliasFile.append Disk.access { path := "aliases".toList } a
        { files := [(["aliases".toList], Utf8.encode "alias work w@x.org".toList)] } = (.ok (), d') ∧
      AliasFile.read Disk.access { path := "aliases".toList } d' =
        (.ok "alias work w@x.org\nalias team t@x.org\n".toList, d') ∧
      Framed "alias work w@x.org".toList a.line ∧
      ∀ b : Book, b.source "alias work w@x.org\nalias team t@x.org\n".toList =
        b.sourceThen "alias work w@x.org".toList a.line := by
  obtain ⟨a, hline, d', happend⟩ : ∃ a : Alias, a.line = "alias team t@x.org".toList ∧
      ∃ d', AliasFile.append Disk.access { path := "aliases".toList } a
        { files := [(["aliases".toList], Utf8.encode "alias work w@x.org".toList)] } = (.ok (), d') :=
    ⟨{ name := "team".toList, addresses := [{ mailbox := some "t@x.org".toList }] },
      by decide +kernel, _, rfl⟩
  have ht : Utf8.decode (Disk.held
      { files := [(["aliases".toList], Utf8.encode "alias work w@x.org".toList)] } "aliases".toList) =
        some "alias work w@x.org".toList := Utf8.decode_encode _
  have hframed : Framed "alias work w@x.org".toList a.line := by
    rw [hline]
    exact ⟨by decide, by decide, by decide, by decide, by decide⟩
  obtain ⟨t', hread, _, hsource⟩ := source_append rfl ht happend
  have ht' : t' = "alias work w@x.org\nalias team t@x.org\n".toList := by
    have hsame := AliasFile.read_append rfl ht happend
    rw [hread, hline] at hsame
    exact Except.ok.inj (Prod.mk.inj hsame).1
  subst ht'
  exact ⟨a, d', hline, happend, hread, hframed, hsource hframed⟩

/-- A line feed in a comment: the alias can be added, but what follows the line feed is run as a
    command, which deletes another alias. -/
theorem source_append_injected :
    ¬ ∀ (f : AliasFile) (d d' : Disk) (a : Alias) (t t' : Text), f.charset = .utf8 →
      Utf8.decode (d.held f.path) = some t →
      AliasFile.append Disk.access f a d = (.ok (), d') →
      AliasFile.read Disk.access f d' = (.ok t', d') →
      ∀ b : Book, b.source t' = b.sourceThen t a.line := by
  intro h
  obtain ⟨a, hline, d', happend⟩ : ∃ a : Alias,
      a.line = "alias team t@x.org # x\nunalias work".toList ∧
      ∃ d', AliasFile.append Disk.access { path := "aliases".toList } a {} = (.ok (), d') :=
    ⟨{ name := "team".toList, addresses := [{ mailbox := some "t@x.org".toList }],
       comment := some "x\nunalias work".toList }, by decide +kernel, _, rfl⟩
  have ht : Utf8.decode (Disk.held {} "aliases".toList) = some [] := Utf8.decode_encode []
  let b : Book :=
    { tools := .standard, settings := {}, environment := {}, directory := []
      nameMask := ⟨[], ⟨some, fun _ => true⟩⟩
      aliases := { aliases := [{ name := "work".toList, addresses := [] }] } }
  have hsource := h _ _ _ _ _ _ rfl ht happend (AliasFile.read_append rfl ht happend) b
  rw [hline] at hsource
  have hnames := congrArg (fun r => r.1.aliases.names) hsource
  revert hnames
  decide +kernel

end Book
end Recipients
