import Recipients.Alias.Printer
import Recipients.Command.Line
import Recipients.Proofs.Text

/-
  What is quoted for a command line is read from it as it was: a quoted word (`spells_quoteWord`), a
  name that needs no quotes (`spells_name`), and address text with its marks protected
  (`next_protect`).
-/

namespace Recipients
namespace Command

/-! ## Tokens character by character -/

theorem onto_onto (s t : Text) (found : Text × Text) : onto s (onto t found) = onto (s ++ t) found := by
  rw [onto, onto, onto, List.append_assoc]

/-- Outside quotes a character stands for itself unless it ends the token, opens quotes or is a
    backslash. -/
theorem readToken_plain {kind : TokenKind} {c : Char} (hend : kind.endsAt c = false)
    (hc : c ∉ ['\'', '"', '\\']) (r : Text) :
    readToken kind none false (c :: r) = onto [c] (readToken kind none false r) := by
  simp only [List.mem_cons, List.not_mem_nil, or_false, not_or] at hc
  obtain ⟨hsingle, hdouble, hback⟩ := hc
  rw [readToken, if_neg (by decide), if_neg (by simp [hend]), if_neg (by simp),
    if_neg (by simp [hsingle, hdouble]), if_neg (by simp [hback])]

theorem readToken_plain_text {kind : TokenKind} {t : Text}
    (ht : ∀ c ∈ t, kind.endsAt c = false ∧ c ∉ ['\'', '"', '\\']) (r : Text) :
    readToken kind none false (t ++ r) = onto t (readToken kind none false r) := by
  induction t with
  | nil => rfl
  | cons c t ih =>
    obtain ⟨hend, hc⟩ := ht c List.mem_cons_self
    rw [List.cons_append, readToken_plain hend hc, ih fun d hd => ht d (List.mem_cons_of_mem c hd),
      onto_onto, List.singleton_append]

/-- A backslash outside quotes gives the character after it its other meaning. -/
theorem readToken_backslash (kind : TokenKind) (c : Char) (r : Text) :
    readToken kind none false ('\\' :: c :: r) = onto [escaped c] (readToken kind none false r) := by
  cases kind <;> rfl

theorem readToken_end {kind : TokenKind} {c : Char} (hend : kind.endsAt c = true) (r : Text) :
    readToken kind none false (c :: r) = ([], c :: r) := by
  rw [readToken, if_neg (by decide), if_pos (by simp [hend])]

/-- In single quotes every other character stands for itself. -/
theorem readToken_inside {c : Char} (hc : c ≠ '\'') (r : Text) :
    readToken .word (some '\'') false (c :: r) = onto [c] (readToken .word (some '\'') false r) := by
  rw [readToken, if_neg (by decide), if_neg (by simp), if_neg (by simpa using hc.symm),
    if_neg (by simp), if_neg (by simp)]

/-! ## Words -/

theorem readToken_quoteWord (t rest : Text) :
    readToken .word none false (quoteWord t ++ rest) = onto t (readToken .word none false rest) := by
  -- The opening quote is taken; what stands behind it, up to the closing one, is read as `t`.
  have hinside : readToken .word (some '\'') false
      ((t.flatMap fun c => if c = '\'' then ['\'', '\\', '\'', '\''] else [c]) ++ '\'' :: rest) =
        onto t (readToken .word none false rest) := by
    induction t with
    | nil => rfl
    | cons c t ih =>
      rw [List.flatMap_cons, List.append_assoc]
      by_cases hc : c = '\''
      · -- The quotes are closed, the quote is escaped, and the quotes are opened again.
        subst hc
        rw [if_pos rfl]
        exact congrArg (onto ['\'']) ih
      · rw [if_neg hc, List.singleton_append, readToken_inside hc, ih, onto_onto,
          List.singleton_append]
  have hopen : quoteWord t ++ rest =
      '\'' :: ((t.flatMap fun c => if c = '\'' then ['\'', '\\', '\'', '\''] else [c]) ++
        '\'' :: rest) := by
    simp [quoteWord]
  rw [hopen, ← hinside]
  rfl

/-- The code points of blanks, and of the marks that a command line has a meaning for. -/
def markCodes : List Nat :=
  [9, 10, 11, 12, 13, 0x20, 0x85, 0xA0, 0x1680, 0x2000, 0x2001, 0x2002, 0x2003, 0x2004, 0x2005,
    0x2006, 0x2007, 0x2008, 0x2009, 0x200A, 0x2028, 0x2029, 0x202F, 0x205F, 0x3000,
    0x22, 0x23, 0x27, 0x3B, 0x5C]

theorem mem_markCodes {c : Char} (hc : Text.isBlank c = true ∨ c ∈ ['"', '#', '\'', ';', '\\']) :
    c.toNat ∈ markCodes := by
  unfold markCodes
  rcases hc with hc | hc
  · simp only [Text.isBlank, Bool.or_eq_true, Bool.and_eq_true, decide_eq_true_eq, beq_iff_eq] at hc
    simp only [List.mem_cons, List.not_mem_nil, or_false]
    omega
  · simp only [List.mem_cons, List.not_mem_nil, or_false] at hc
    rcases hc with rfl | rfl | rfl | rfl | rfl <;> decide

/-- What is safe in a name is neither blank nor a mark. -/
theorem not_mark_of_isNameCharacter {c : Char} (hc : Alias.isNameCharacter c = true) :
    Text.isBlank c = false ∧ c ∉ ['"', '#', '\'', ';', '\\'] := by
  have hmarks : ∀ n ∈ markCodes, Alias.isNameCharacter (Char.ofNat n) = false := by decide +kernel
  have hnot : c.toNat ∉ markCodes := by
    intro hmem
    have hno := hmarks c.toNat hmem
    rw [Char.ofNat_toNat, hc] at hno
    cases hno
  exact ⟨Bool.eq_false_iff.2 fun h => hnot (mem_markCodes (.inl h)),
    fun h => hnot (mem_markCodes (.inr h))⟩

/-! ## Spellings -/

theorem start_cons {c : Char} (hc : Text.isBlank c = false) (t : Text) : start (c :: t) = c :: t :=
  Text.trimStart_cons hc t

/-- As the next word of a line, `s` is read as `w`, whatever follows it. -/
structure Spells (s w : Text) : Prop where
  reads : ∀ r, readToken .word none false (s ++ r) = onto w (readToken .word none false r)
  /-- It begins where it stands, and not with the end of a command. -/
  head : ∃ c r, s = c :: r ∧ TokenKind.word.endsAt c = false

theorem spells_quoteWord (t : Text) : Spells (quoteWord t) t :=
  ⟨readToken_quoteWord t, '\'', _, rfl, by decide⟩

/-- A text without blanks and marks stands for itself. -/
theorem spells_plain {t : Text} (hne : t ≠ [])
    (ht : ∀ c ∈ t, TokenKind.word.endsAt c = false ∧ c ∉ ['\'', '"', '\\']) : Spells t t := by
  refine ⟨readToken_plain_text ht, ?_⟩
  obtain ⟨c, r, rfl⟩ := List.exists_cons_of_ne_nil hne
  exact ⟨c, r, rfl, (ht c List.mem_cons_self).1⟩

theorem spells_name {n : Text} (hne : n ≠ []) (hn : Alias.isSafeName n = true) : Spells n n := by
  refine spells_plain hne fun c hc => ?_
  obtain ⟨hblank, hmark⟩ := not_mark_of_isNameCharacter (List.all_eq_true.1 hn c hc)
  simp only [List.mem_cons, List.not_mem_nil, or_false, not_or] at hmark
  simp [TokenKind.endsAt, hblank, hmark]

namespace Spells

variable {s w : Text}

theorem start (h : Spells s w) (r : Text) : Command.start (s ++ r) = s ++ r := by
  obtain ⟨c, t, rfl, hc⟩ := h.head
  simp only [TokenKind.endsAt, Bool.or_eq_false_iff] at hc
  exact start_cons hc.1.1 (t ++ r)

theorem hasArgument (h : Spells s w) (r : Text) : Command.hasArgument (s ++ r) = true := by
  obtain ⟨c, t, rfl, hc⟩ := h.head
  simp only [TokenKind.endsAt, Bool.or_eq_false_iff, beq_eq_false_iff_ne] at hc
  simp [Command.hasArgument, hc]

/-- The word, where the text ends or something stands that ends a word. -/
theorem next (h : Spells s w) {r : Text} (hr : ∀ c ∈ r.head?, TokenKind.word.endsAt c = true) :
    Command.next .word (s ++ r) = (w, Command.start r) := by
  have hend : readToken .word none false r = ([], r) := by
    cases r with
    | nil => rfl
    | cons c r => exact readToken_end (hr c rfl) r
  rw [Command.next, h.reads, hend, onto, List.append_nil]

theorem next_space (h : Spells s w) (r : Text) :
    Command.next .word (s ++ ' ' :: r) = (w, Command.start r) :=
  h.next fun c hc => by rw [← Option.some.inj hc]; rfl

end Spells

/-! ## Commands -/

theorem readWords_eq {rest : Text} (h : hasArgument rest = true) :
    (readWords rest).1 =
      ⟨(next .word rest).1, (next .word rest).2⟩ :: (readWords (next .word rest).2).1 := by
  rw [readWords, dif_pos h]

/-- A line that begins with the word for aliases is one command. -/
theorem ofRest_alias {line rest : Text} (hover : isOver line = false)
    (hsemi : afterSemicolon? line = none) (hnext : next .word line = (aliasWord, rest)) :
    ofRest line = [⟨aliasWord, (readWords rest).1⟩] := by
  rw [ofRest, dif_neg (Bool.eq_false_iff.1 hover)]
  split
  · rename_i h
    rw [hsemi] at h
    cases h
  · simp only [hnext, ↓reduceIte]

/-- A line that defines an alias: the word for that, and what follows it. -/
theorem next_definition (rest : Text) :
    next .word (start (aliasWord ++ ' ' :: rest)) = (aliasWord, start rest) := by
  have hword : Spells aliasWord aliasWord :=
    spells_plain (List.cons_ne_nil _ _) (Text.forall_mem_of_all (by decide))
  rw [hword.start, hword.next_space]

theorem ofLine_alias (rest : Text) :
    ofLine (aliasWord ++ ' ' :: rest) = [⟨aliasWord, (readWords (start rest)).1⟩] :=
  ofRest_alias rfl rfl (next_definition rest)

/-- With a name, what follows the name. -/
theorem ofLine_definition {s n : Text} (h : Spells s n) (rest : Text) :
    ∃ words, ofLine (aliasWord ++ ' ' :: (s ++ ' ' :: rest)) =
      [⟨aliasWord, ⟨n, start rest⟩ :: words⟩] := by
  refine ⟨(readWords (start rest)).1, ?_⟩
  rw [ofLine_alias, h.start, readWords_eq (h.hasArgument _), h.next_space]

/-! ## Address text -/

theorem protect_cons (c : Char) (t : Text) : protect (c :: t) = protect [c] ++ protect t := by
  rw [protect, protect, protect, List.flatMap_cons, List.flatMap_singleton]

/-- A protected mark is none of the letters that mean another character after a backslash. -/
theorem escaped_of_mem : ∀ c ∈ protectedMarks, escaped c = c := Text.forall_mem_of_all (by decide)

theorem readToken_protect (t rest : Text) :
    readToken .addresses none false (protect t ++ rest) =
      onto t (readToken .addresses none false rest) := by
  induction t with
  | nil => rfl
  | cons c t ih =>
    have hstep (r : Text) : readToken .addresses none false (protect [c] ++ r) =
        onto [c] (readToken .addresses none false r) := by
      rw [protect, List.flatMap_singleton]
      split
      · rename_i hc
        rw [List.contains_iff_mem] at hc
        show readToken .addresses none false ('\\' :: c :: r) = _
        rw [readToken_backslash, escaped_of_mem c hc]
      · rename_i hc
        rw [List.contains_iff_mem] at hc
        simp only [protectedMarks, List.mem_cons, List.not_mem_nil, or_false, not_or] at hc
        exact readToken_plain (by simp [TokenKind.endsAt, hc]) (by simp [hc]) r
    rw [protect_cons, List.append_assoc, hstep, ih, onto_onto, List.singleton_append]

theorem protect_head (c : Char) (t : Text) :
    ∃ d r, protect (c :: t) = d :: r ∧ (d = '\\' ∨ d = c) := by
  rw [protect, List.flatMap_cons]
  split
  · exact ⟨_, _, rfl, .inl rfl⟩
  · exact ⟨_, _, rfl, .inr rfl⟩

theorem start_protect (t : Text) {rest : Text} (hrest : ∀ c ∈ rest.head?, Text.isBlank c = false) :
    start (protect t ++ rest) = protect (Text.trimStart t) ++ rest := by
  induction t with
  | nil =>
    cases rest with
    | nil => rfl
    | cons c rest => exact start_cons (hrest c rfl) rest
  | cons c t ih =>
    cases hc : Text.isBlank c with
    | false =>
      obtain ⟨d, r, hprotect, hd⟩ := protect_head c t
      rw [Text.trimStart_cons hc, hprotect]
      refine start_cons ?_ (r ++ rest)
      rcases hd with rfl | rfl
      · decide
      · exact hc
    | true =>
      have hplain : protect [c] = [c] := by
        have hmarks : ∀ d ∈ protectedMarks, Text.isBlank d = false :=
          Text.forall_mem_of_all (by decide)
        have hmark : c ∉ protectedMarks := fun h => by
          rw [hmarks c h] at hc
          cases hc
        rw [protect, List.flatMap_singleton, if_neg (by simpa using hmark)]
      rw [protect_cons, hplain, Text.trimStart, List.dropWhile_cons_of_pos hc, ← Text.trimStart, ← ih]
      exact List.dropWhile_cons_of_pos hc

/-- Protected text is read up to a comment, without the blanks in front of it. -/
theorem next_protect (t : Text) {rest : Text} (hrest : ∀ c ∈ rest.head?, c = '#') :
    next .addresses (start (protect t ++ rest)) = (Text.trimStart t, rest) := by
  have hblank : ∀ c ∈ rest.head?, Text.isBlank c = false := fun c hc => by rw [hrest c hc]; rfl
  have hend : readToken .addresses none false rest = ([], rest) := by
    cases rest with
    | nil => rfl
    | cons c rest => exact readToken_end (by rw [hrest c rfl]; rfl) rest
  have hstart : start rest = rest := start_protect [] hblank
  rw [start_protect t hblank, next, readToken_protect, hend, onto, List.append_nil, hstart]

/-- Protection puts backslashes between the characters, and nothing behind the last one. -/
theorem mem_protect {t : Text} {c : Char} (hc : c ∈ protect t) : c = '\\' ∨ c ∈ t := by
  obtain ⟨d, hd, hc⟩ := List.mem_flatMap.1 hc
  split at hc
  · simp only [List.mem_cons, List.not_mem_nil, or_false] at hc
    rcases hc with rfl | rfl
    · exact .inl rfl
    · exact .inr hd
  · rw [List.mem_singleton.1 hc]
    exact .inr hd

theorem protect_getLast? {t : Text} {c : Char} (h : t.getLast? = some c) :
    (protect t).getLast? = some c := by
  obtain ⟨u, rfl⟩ := List.getLast?_eq_some_iff.1 h
  rw [protect, List.flatMap_append, List.flatMap_singleton]
  refine Text.getLast?_append_of_eq_some ?_ _
  split <;> rfl

end Command
end Recipients
