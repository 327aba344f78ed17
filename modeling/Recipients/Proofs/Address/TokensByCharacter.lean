import Recipients.Proofs.Address.Reading
import Recipients.Proofs.Reader

/-
  The tokens of address text read character by character. Comments and quoted strings are loops over the
  characters that are left, and so is a stretch of plain words. All of them end, also where something is
  not closed or a backslash is the last character, with what the functions on text yield
  (`follows_comment`, `follows_quotedString`, `follows_token`).
-/

namespace Recipients

namespace Address

theorem exists_readToken {c : Char} (hopen : c ≠ '(') (hquote : c ≠ '"') (r : Text) :
    ∃ p, readToken (c :: r) = .ok p := by
  rw [readToken, if_neg hopen, if_neg hquote]
  split
  · exact ⟨_, rfl⟩
  · exact ⟨_, rfl⟩

theorem readToken_gap {c : Char} (hgap : isGap c = true) (r : Text) :
    readToken (c :: r) = .ok ([], c :: r) := by
  have hspecial : isSpecial c = false := by
    cases h : isSpecial c with
    | false => rfl
    | true => rw [isGap_of_isSpecial h] at hgap; cases hgap
  have hopen : c ≠ '(' := by
    rintro rfl
    cases hgap
  have hquote : c ≠ '"' := by
    rintro rfl
    cases hgap
  have hordinary : ¬ isOrdinary c = true := by simp [isOrdinary, hgap]
  rw [readToken, if_neg hopen, if_neg hquote, hspecial, if_neg Bool.false_ne_true,
    List.takeWhile_cons_of_neg hordinary, List.dropWhile_cons_of_neg hordinary]

end Address

namespace Reader

open Address (Found isGap isOrdinary isSpecial readComment readQuoted readToken)

/-! ## Readers -/

/-- The character behind a backslash, which has to be one. -/
def escaped {σ : Type} (e : ParseError) (next : Char → σ) :
    Reader ParseError (Except ParseError Text ⊕ σ) := do
  match ← advance with
  | none => return .inl (.error e)
  | some c => return .inr (next c)

/-- Inside a comment, `s.1` further comments deep; `s.2` has been read of it. -/
def commentTurn (s : Nat × Text) : Reader ParseError (Except ParseError Text ⊕ (Nat × Text)) := do
  match ← advance with
  | none => return .inl (.error .mismatchedParen)
  | some c =>
    if c = '(' then return .inr (s.1 + 1, s.2 ++ ['('])
    else if c = ')' then
      match s.1 with
      | 0 => return .inl (.ok s.2)
      | d + 1 => return .inr (d, s.2 ++ [')'])
    else if c = '\\' then escaped .mismatchedParen fun c => (s.1, s.2 ++ [c])
    else return .inr (s.1, s.2 ++ [c])

/-- Inside a quoted string. -/
def quotedTurn (s : Text) : Reader ParseError (Except ParseError Text ⊕ Text) := do
  match ← advance with
  | none => return .inl (.error .mismatchedQuote)
  | some c =>
    if c = '"' then return .inl (.ok s)
    else if c = '\\' then escaped .mismatchedQuote fun c => s ++ [c]
    else return .inr (s ++ [c])

/-- Reads what a loop ends with. -/
def closed {σ : Type} (turn : σ → Reader ParseError (Except ParseError Text ⊕ σ)) (s : σ) :
    Reader ParseError Text := do
  match ← loop turn s with
  | .ok t => return t
  | .error e => throw e

def comment : Reader ParseError Text := closed commentTurn (0, [])

def quotedString : Reader ParseError Text := closed quotedTurn []

def token : Reader ParseError Text := do
  match ← peek with
  | none => return []
  | some c =>
    if c = '(' then
      let _ ← advance
      comment
    else if c = '"' then
      let _ ← advance
      quotedString
    else if isSpecial c then
      let _ ← advance
      return [c]
    else passWhile isOrdinary

/-! ## Enclosed text -/

/-- What the loop over enclosed text ends with, where `body` has been read of it. -/
def enclosed (body : Text) : Found → Except ParseError (Except ParseError Text × Text)
  | .ok (t, rest) => .ok (.ok (body ++ t), rest)
  | .error e => .ok (.error e, [])

theorem enclosed_cons (body : Text) (c : Char) (found : Found) :
    enclosed body (found.cons c) = enclosed (body ++ [c]) found := by
  cases found with
  | error e => rfl
  | ok p =>
    show Except.ok (Except.ok (body ++ (c :: p.1)), p.2) = Except.ok (Except.ok (body ++ [c] ++ p.1), p.2)
    rw [List.append_cons]

theorem follows_closed {σ : Type} {turn : σ → Reader ParseError (Except ParseError Text ⊕ σ)} {s : σ}
    {read : Text → Found} (h : (loop turn s).Follows fun cs => enclosed [] (read cs)) :
    (closed turn s).Follows read := by
  intro cs
  cases hread : read cs with
  | error e =>
    have hloop : (loop turn s).Reads cs (.ok (.error e)) [] := h.reads (by rw [hread]; rfl)
    exact ⟨.error e, [], hloop.bind (reads_throw [] e), rfl⟩
  | ok p =>
    have hloop : (loop turn s).Reads cs (.ok (.ok p.1)) p.2 := h.reads (by rw [hread]; rfl)
    exact ⟨.ok p.1, p.2, hloop.bind (reads_pure p.2 p.1), rfl⟩

theorem turns_escaped {σ : Type} {turn : Reader ParseError (Except ParseError Text ⊕ σ)}
    {value : σ → Text → Except ParseError (Except ParseError Text × Text)} {s : σ} {e : ParseError}
    {next : Char → σ} {r : Text}
    (hturn : ∀ {a rest}, (escaped e next).Reads r a rest → turn.Reads ('\\' :: r) a rest)
    (hend : value s ['\\'] = .ok (.error e, []))
    (hnext : ∀ c r, value s ('\\' :: c :: r) = value (next c) r) :
    ∃ a rest, turn.Reads ('\\' :: r) a rest ∧ Turns (fun _ => True) value s ('\\' :: r) rest a := by
  cases r with
  | nil => exact ⟨_, _, hturn ((reads_advance []).bind (reads_pure [] _)), .ends trivial hend⟩
  | cons c r =>
    refine ⟨_, _, hturn ((reads_advance _).bind (reads_pure r _)), .goesOn ?_ (hnext c r)⟩
    simp only [List.length_cons]
    omega

theorem turning_commentTurn :
    Turning (fun _ => True) commentTurn fun s cs => enclosed s.2 (readComment s.1 cs) := by
  rintro ⟨d, body⟩ cs
  cases cs with
  | nil => exact ⟨.ok (.inl (.error _)), [], (reads_advance []).bind (reads_pure [] _), .ends trivial rfl⟩
  | cons c r =>
    have hlt : r.length < (c :: r).length := Nat.lt_succ_self _
    by_cases hopen : c = '('
    · subst hopen
      refine ⟨.ok (.inr (d + 1, body ++ ['('])), r, (reads_advance _).bind (reads_pure r _), .goesOn hlt ?_⟩
      exact enclosed_cons body '(' (readComment (d + 1) r)
    by_cases hclose : c = ')'
    · subst hclose
      cases d with
      | zero =>
        refine ⟨.ok (.inl (.ok body)), r, (reads_advance _).bind (reads_pure r _), .ends trivial ?_⟩
        show Except.ok (Except.ok (body ++ []), r) = _
        rw [List.append_nil]
      | succ d =>
        refine ⟨.ok (.inr (d, body ++ [')'])), r, (reads_advance _).bind (reads_pure r _), .goesOn hlt ?_⟩
        exact enclosed_cons body ')' (readComment d r)
    by_cases hescape : c = '\\'
    · subst hescape
      refine turns_escaped (fun h => (reads_advance _).bind h) ?_ (fun c r => ?_)
      · simp only [readComment]
        rfl
      · simp only [readComment]
        exact enclosed_cons body c (readComment d r)
    · refine ⟨.ok (.inr (d, body ++ [c])), r, (reads_advance _).bind ?_, .goesOn hlt ?_⟩
      · dsimp only [List.head?_cons]
        rw [if_neg hopen, if_neg hclose, if_neg hescape]
        exact reads_pure r _
      · have hread : readComment d (c :: r) = (readComment d r).cons c := by
          simp [readComment, hclose, hescape]
        rw [hread]
        exact enclosed_cons body c (readComment d r)

theorem turning_quotedTurn :
    Turning (fun _ => True) quotedTurn fun body cs => enclosed body (readQuoted cs) := by
  intro body cs
  cases cs with
  | nil => exact ⟨.ok (.inl (.error _)), [], (reads_advance []).bind (reads_pure [] _), .ends trivial rfl⟩
  | cons c r =>
    have hlt : r.length < (c :: r).length := Nat.lt_succ_self _
    by_cases hclose : c = '"'
    · subst hclose
      refine ⟨.ok (.inl (.ok body)), r, (reads_advance _).bind (reads_pure r _), .ends trivial ?_⟩
      show Except.ok (Except.ok (body ++ []), r) = _
      rw [List.append_nil]
    by_cases hescape : c = '\\'
    · subst hescape
      refine turns_escaped (fun h => (reads_advance _).bind h) ?_ (fun c r => ?_)
      · simp only [readQuoted]
        rfl
      · simp only [readQuoted]
        exact enclosed_cons body c (readQuoted r)
    · refine ⟨.ok (.inr (body ++ [c])), r, (reads_advance _).bind ?_, .goesOn hlt ?_⟩
      · dsimp only [List.head?_cons]
        rw [if_neg hclose, if_neg hescape]
        exact reads_pure r _
      · have hread : readQuoted (c :: r) = (readQuoted r).cons c := by
          simp [readQuoted, hescape]
        rw [hread]
        exact enclosed_cons body c (readQuoted r)

theorem follows_comment : comment.Follows (readComment 0) :=
  follows_closed (follows_loop turning_commentTurn (0, []))

theorem follows_quotedString : quotedString.Follows readQuoted :=
  follows_closed (follows_loop turning_quotedTurn [])

/-! ## Tokens -/

theorem follows_token : token.Follows readToken := by
  intro cs
  cases cs with
  | nil => exact ⟨.ok [], [], (reads_peek []).bind (reads_pure [] _), rfl⟩
  | cons c r =>
    by_cases hopen : c = '('
    · subst hopen
      obtain ⟨a, rest, hreads, hvalue⟩ := follows_comment r
      exact ⟨a, rest, (reads_peek _).bind ((reads_advance _).bind hreads), hvalue⟩
    by_cases hquote : c = '"'
    · subst hquote
      obtain ⟨a, rest, hreads, hvalue⟩ := follows_quotedString r
      exact ⟨a, rest, (reads_peek _).bind ((reads_advance _).bind hreads), hvalue⟩
    rw [readToken, if_neg hopen, if_neg hquote]
    by_cases hspecial : isSpecial c = true
    · rw [if_pos hspecial]
      refine ⟨.ok [c], r, (reads_peek _).bind ?_, rfl⟩
      dsimp only [List.head?_cons]
      rw [if_neg hopen, if_neg hquote, if_pos hspecial]
      exact (reads_advance _).bind (reads_pure r _)
    · rw [if_neg hspecial]
      refine ⟨.ok _, _, (reads_peek _).bind ?_, rfl⟩
      dsimp only [List.head?_cons]
      rw [if_neg hopen, if_neg hquote, if_neg hspecial]
      exact reads_passWhile isOrdinary (c :: r)

end Reader
end Recipients
