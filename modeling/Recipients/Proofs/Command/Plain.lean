import Mathlib.Data.List.TakeWhile
import Recipients.Proofs.Command.Quoting

/-
  Plain lines: no quotes, no backslashes, no semicolons, no comment. A plain line is one command,
  whose texts are the words of the line (`readWords_plain`), or none if the line is blank. What
  follows it after a semicolon is read on its own (`ofRest_plain`), except after the word that begins
  the definition of an alias. The addresses there are read as they are, if they have no marks
  (`next_addresses_plain`).
-/

namespace Recipients

namespace Text

theorem words_append {w s : Text} (hne : w ≠ []) (hw : ∀ c ∈ w, isBlank c = false)
    (hs : ∀ c ∈ s.head?, isBlank c = true) : words (w ++ s) = w :: words s := by
  cases s with
  | nil => rw [List.append_nil, words, stretches_of_forall hne hw]; rfl
  | cons c s =>
    have hc : isBlank c = true := hs c rfl
    rw [words, words, stretches_append hc, stretches_of_forall hne hw, stretches_cons_sep hc,
      List.singleton_append]

/-- A text is blank, or it begins, after blanks, with its first word. -/
theorem words_cases (t : Text) :
    (words t = [] ∧ trimStart t = []) ∨
      ∃ w s, w ≠ [] ∧ (∀ c ∈ w, isBlank c = false) ∧ (∀ c ∈ s.head?, isBlank c = true) ∧
        trimStart t = w ++ s ∧ words t = w :: words s := by
  induction t with
  | nil => exact .inl ⟨rfl, rfl⟩
  | cons c t ih =>
    cases hc : isBlank c with
    | true =>
      rw [words, stretches_cons_sep hc, trimStart, List.dropWhile_cons_of_pos hc]
      exact ih
    | false =>
      let w := (c :: t).takeWhile fun d => !isBlank d
      let s := (c :: t).dropWhile fun d => !isBlank d
      have hsplit : c :: t = w ++ s := List.takeWhile_append_dropWhile.symm
      have hne : w ≠ [] := by simp [w, hc]
      have hw : ∀ d ∈ w, isBlank d = false := fun d hd => by simpa using List.mem_takeWhile_imp hd
      have hs : ∀ d ∈ s.head?, isBlank d = true := by
        intro d hd
        have hnot := List.head?_dropWhile_not (fun d => !isBlank d) (c :: t)
        rw [Option.mem_def.1 hd] at hnot
        simpa using hnot
      refine .inr ⟨w, s, hne, hw, hs, ?_, ?_⟩
      · rw [trimStart_cons hc]
        exact hsplit
      · rw [← words_append hne hw hs, ← hsplit]

end Text

namespace Command

/-- No character of the text has a meaning for a command line, blanks apart. -/
def IsPlain (t : Text) : Prop := ∀ c ∈ t, c ∉ ['\'', '"', '\\', '#', ';']

instance (t : Text) : Decidable (IsPlain t) := List.decidableBAll _ t

/-- All words of a command. -/
def texts (c : Command) : List Text := c.first :: c.words.map Word.text

variable {t r : Text}

theorem IsPlain.of_subset {s : Text} (ht : IsPlain t) (hs : s ⊆ t) : IsPlain s :=
  fun c hc => ht c (hs hc)

/-- What may stand behind a plain line: nothing, or a semicolon with another line. -/
theorem end_cases (hr : r.head?.all (· == ';') = true) : r = [] ∨ ∃ s, r = ';' :: s := by
  cases r with
  | nil => exact .inl rfl
  | cons c r =>
    obtain rfl : c = ';' := by simpa using hr
    exact .inr ⟨r, rfl⟩

/-- A plain line is blank, or it begins with its first word and goes on as a plain line. -/
theorem start_plain (ht : IsPlain t) (hr : r.head?.all (· == ';') = true) :
    (Text.words t = [] ∧ start (t ++ r) = r) ∨
      ∃ w s, Text.words t = w :: Text.words s ∧ IsPlain s ∧ s.length < t.length ∧
        hasArgument (start (t ++ r)) = true ∧ next .word (start (t ++ r)) = (w, start (s ++ r)) := by
  rcases Text.words_cases t with ⟨hwords, hblank⟩ | ⟨w, s, hne, hw, hs, hstart, hwords⟩
  · refine .inl ⟨hwords, ?_⟩
    rw [start, Text.trimStart, List.dropWhile_append, ← Text.trimStart, hblank, List.isEmpty_nil,
      if_pos rfl]
    obtain rfl | ⟨r, rfl⟩ := end_cases hr <;> rfl
  · have hsub : w ++ s ⊆ t := hstart ▸ (List.dropWhile_suffix _).subset
    have hlength : (w ++ s).length ≤ t.length := hstart ▸ start_length_le t
    have hplain : IsPlain (w ++ s) := ht.of_subset hsub
    have hword : ∀ c ∈ w, TokenKind.word.endsAt c = false ∧ c ∉ ['\'', '"', '\\'] := by
      intro c hc
      have hmark := hplain c (List.mem_append_left s hc)
      simp only [List.mem_cons, List.not_mem_nil, or_false, not_or] at hmark
      simp [TokenKind.endsAt, hw c hc, hmark]
    obtain ⟨c, w', rfl⟩ := List.exists_cons_of_ne_nil hne
    have hrest : start (t ++ r) = (c :: w') ++ (s ++ r) := by
      rw [start, Text.trimStart, List.dropWhile_append, ← Text.trimStart, hstart, List.append_assoc]
      rfl
    have hend : readToken .word none false (s ++ r) = ([], s ++ r) := by
      cases s with
      | cons d s => exact readToken_end (by simp [TokenKind.endsAt, hs d rfl]) (s ++ r)
      | nil =>
        obtain rfl | ⟨r, rfl⟩ := end_cases hr
        · rfl
        · exact readToken_end rfl r
    refine .inr ⟨c :: w', s, hwords, hplain.of_subset (List.subset_append_right _ s), ?_, ?_, ?_⟩
    · rw [List.length_append, List.length_cons] at hlength
      omega
    · have hc := hplain c List.mem_cons_self
      simp only [List.mem_cons, List.not_mem_nil, or_false, not_or] at hc
      rw [hrest]
      simp [hasArgument, hc]
    · rw [hrest, next, readToken_plain_text hword, hend, onto, List.append_nil]

theorem readWords_plain (ht : IsPlain t) (hr : r.head?.all (· == ';') = true) :
    (readWords (start (t ++ r))).1.map Word.text = Text.words t ∧
      (readWords (start (t ++ r))).2 = r := by
  induction hn : t.length using Nat.strongRecOn generalizing t with
  | ind n ih =>
    subst hn
    rcases start_plain ht hr with ⟨hwords, hstart⟩ | ⟨w, s, hwords, hs, hlt, hargument, hnext⟩
    · have hover : ¬ hasArgument r = true := by
        obtain rfl | ⟨r, rfl⟩ := end_cases hr <;> simp [hasArgument]
      rw [hstart, hwords, readWords, dif_neg hover]
      exact ⟨rfl, rfl⟩
    · obtain ⟨htexts, hrest⟩ := ih s.length hlt hs rfl
      rw [readWords, dif_pos hargument, hnext, hwords]
      exact ⟨congrArg (w :: ·) htexts, hrest⟩

theorem ofRest_nil : ofRest [] = [] := by
  rw [ofRest]
  rfl

theorem ofRest_semicolon (r : Text) : ofRest (';' :: r) = ofRest (start r) := by
  rw [ofRest]
  rfl

/-- The first command, where it does not define an alias. -/
theorem ofRest_cons {rest : Text} (h : hasArgument rest = true)
    (hfirst : (next .word rest).1 ≠ aliasWord) :
    ofRest rest = ⟨(next .word rest).1, (readWords (next .word rest).2).1⟩ ::
      (afterSemicolon? (readWords (next .word rest).2).2).elim [] ofRest := by
  obtain ⟨hover, hsemi⟩ : ¬ isOver rest = true ∧ afterSemicolon? rest = none := by
    cases rest with
    | nil => cases h
    | cons c rest =>
      simp only [hasArgument, List.head?_cons, Option.any_some, Bool.and_eq_true, bne_iff_ne,
        ne_eq] at h
      simp [isOver, afterSemicolon?, h]
  rw [ofRest, dif_neg hover]
  split
  · rename_i hsome
    rw [hsemi] at hsome
    cases hsome
  · dsimp only
    rw [if_neg hfirst]
    split
    · rename_i hend
      rw [hend]
      rfl
    · rename_i hend
      rw [hend]
      rfl

/-- A plain line, up to a semicolon, and what follows the semicolon. -/
theorem ofRest_plain (ht : IsPlain t) (hfirst : (Text.words t).head? ≠ some aliasWord)
    (hr : r.head?.all (· == ';') = true) :
    ∃ cs, cs.map texts = (if Text.words t = [] then [] else [Text.words t]) ∧
      ofRest (start (t ++ r)) = cs ++ (afterSemicolon? r).elim [] ofRest := by
  rcases start_plain ht hr with ⟨hwords, hstart⟩ | ⟨w, s, hwords, hs, -, hargument, hnext⟩
  · refine ⟨[], by simp [hwords], ?_⟩
    rw [hstart]
    obtain rfl | ⟨r, rfl⟩ := end_cases hr
    · exact ofRest_nil
    · exact ofRest_semicolon r
  · obtain ⟨htexts, hrest⟩ := readWords_plain hs hr
    have hw : w ≠ aliasWord := fun h => hfirst (by rw [hwords, List.head?_cons, h])
    refine ⟨[⟨w, (readWords (start (s ++ r))).1⟩], ?_, ?_⟩
    · rw [hwords, if_neg (List.cons_ne_nil _ _), List.map_singleton, texts, htexts]
    · rw [ofRest_cons hargument (by rwa [hnext]), hnext, hrest]
      rfl

/-! ## Text without quotes -/

theorem readToken_suffix (kind : TokenKind) (quote : Option Char) (held : Bool) (cs : Text) :
    (readToken kind quote held cs).2 <:+ cs := by
  fun_induction readToken kind quote held cs with
  | case1 | case3 => exact List.suffix_rfl
  | case2 | case4 | case5 | case6 | case7 =>
    rename_i ih
    exact ih.trans (List.suffix_cons _ _)

theorem start_head (rest : Text) : ∀ c ∈ (start rest).head?, Text.isBlank c = false := by
  intro c hc
  have hnot := List.head?_dropWhile_not Text.isBlank rest
  rw [← Text.trimStart, ← start, Option.mem_def.1 hc] at hnot
  exact hnot

/-- Without quotes and backslashes no word is empty. -/
theorem readWords_ne_nil {rest : Text} (hplain : ∀ c ∈ rest, c ∉ ['\'', '"', '\\'])
    (hstart : ∀ c ∈ rest.head?, Text.isBlank c = false) :
    ∀ w ∈ (readWords rest).1, w.text ≠ [] := by
  fun_induction readWords rest with
  | case1 rest hargument found more ih =>
    have hsuffix : found.2 <:+ rest :=
      (List.dropWhile_suffix _).trans (readToken_suffix .word none false rest)
    refine List.forall_mem_cons.2 ⟨?_, ih (fun c hc => hplain c (hsuffix.subset hc)) (start_head _)⟩
    show (next .word rest).1 ≠ []
    cases rest with
    | nil => cases hargument
    | cons c r =>
      have hblank := hstart c rfl
      have hend : TokenKind.word.endsAt c = false := by
        simpa [TokenKind.endsAt, hblank, hasArgument] using hargument
      rw [next, readToken_plain hend (hplain c List.mem_cons_self)]
      exact List.cons_ne_nil _ _
  | case2 => exact List.forall_mem_nil _

/-- Address text without marks is read to the end. -/
theorem next_addresses_plain {t : Text} (ht : ∀ c ∈ t, c ∉ ['\'', '"', '\\', '#']) :
    next .addresses t = (t, []) := by
  have hplain : ∀ c ∈ t, TokenKind.addresses.endsAt c = false ∧ c ∉ ['\'', '"', '\\'] := by
    intro c hc
    have hmark := ht c hc
    simp only [List.mem_cons, List.not_mem_nil, or_false, not_or] at hmark
    simp [TokenKind.endsAt, hmark]
  have hread := readToken_plain_text hplain []
  rw [List.append_nil] at hread
  rw [next, hread, readToken, onto, if_neg Bool.false_ne_true, List.append_nil]
  rfl

end Command
end Recipients
