import Recipients.Proofs.Command.Plain

/-
  Lines of words, each spelled in some way. Such a line is one command with these words, however they are
  spelled (`ofLine_spaced`), unless it defines an alias.
-/

namespace Recipients
namespace Command

/-- Words of a line, each with a space in front of it. -/
def spaced (spellings : List Text) : Text := spellings.flatMap fun s => ' ' :: s

theorem start_spaced {s w : Text} (h : Spells s w) (spellings : List Text) :
    start (spaced (s :: spellings)) = s ++ spaced spellings :=
  h.start _

theorem next_spaced {s w : Text} (h : Spells s w) (spellings : List Text) :
    next .word (s ++ spaced spellings) = (w, start (spaced spellings)) := by
  refine h.next fun c hc => ?_
  cases spellings with
  | nil => cases hc
  | cons t spellings => rw [← Option.some.inj hc]; rfl

theorem readWords_spaced {spellings words : List Text} (h : List.Forall₂ Spells spellings words) :
    (readWords (start (spaced spellings))).1.map Word.text = words ∧
      (readWords (start (spaced spellings))).2 = [] := by
  induction h with
  | nil => rw [readWords]; exact ⟨rfl, rfl⟩
  | @cons s w spellings words hs _ ih =>
    rw [start_spaced hs, readWords, dif_pos (hs.hasArgument _), next_spaced hs]
    exact ⟨congrArg (w :: ·) ih.1, ih.2⟩

theorem ofLine_spaced {s w : Text} {spellings words : List Text} (hs : Spells s w)
    (hw : w ≠ aliasWord) (h : List.Forall₂ Spells spellings words) :
    ∃ c, ofLine (s ++ spaced spellings) = [c] ∧ c.texts = w :: words := by
  have hnext := next_spaced hs spellings
  obtain ⟨htexts, hrest⟩ := readWords_spaced h
  refine ⟨⟨w, (readWords (start (spaced spellings))).1⟩, ?_, congrArg (w :: ·) htexts⟩
  rw [ofLine, hs.start, ofRest_cons (hs.hasArgument _) (by rwa [hnext]), hnext, hrest]
  rfl

end Command
end Recipients
