import Recipients.Proofs.Address.TokensByCharacter

/-
  Mailboxes read character by character, bare ones and those in angle brackets. The parts of a mailbox
  and the routes before it are loops. A turn for them takes a character at least, unless the loop ends
  there, and also where it fails (`turning_partTurn`, `turning_routeTurn`); what is read is what the
  functions on text yield (`follows_mailbox`, `follows_angle`).
-/

namespace Recipients

namespace Address

/-- One turn for a part. -/
theorem readPart_turn (allowed text comment : Text) {cs r : Text} {c : Char} (h : skipGap cs = c :: r) :
    readPart allowed text comment cs =
      if isSpecial c && !allowed.contains c then .ok ⟨text, comment, c :: r⟩
      else if c = '(' then
        (readComment 0 r).bind fun p => readPart allowed text (joinComment comment p.1) p.2
      else if c = '"' then
        (readQuoted r).bind fun p => readPart allowed (text ++ quoted p.1) comment p.2
      else (readToken (c :: r)).bind fun p => readPart allowed (text ++ p.1) comment p.2 := by
  rw [readPart]
  split
  · rename_i hnone
    cases h.symm.trans hnone
  · rename_i c' r' hsome
    cases h.symm.trans hsome
    by_cases hstop : (isSpecial c && !allowed.contains c) = true
    · rw [if_pos hstop, if_pos hstop]
    rw [if_neg hstop, if_neg hstop]
    by_cases hopen : c = '('
    · rw [if_pos hopen, if_pos hopen]
      split
      · rename_i hcomment
        rw [hcomment]
        rfl
      · rename_i hcomment
        rw [hcomment]
        rfl
    rw [if_neg hopen, if_neg hopen]
    by_cases hquote : c = '"'
    · rw [if_pos hquote, if_pos hquote]
      split
      · rename_i hquoted
        rw [hquoted]
        rfl
      · rename_i hquoted
        rw [hquoted]
        rfl
    rw [if_neg hquote, if_neg hquote, readToken, if_neg hopen, if_neg hquote]
    cases hspecial : isSpecial c with
    | true => rfl
    | false =>
      have hordinary : isOrdinary c = true := isOrdinary_iff.2 ⟨skipGap_head h, hspecial⟩
      rw [if_neg Bool.false_ne_true, if_neg Bool.false_ne_true, List.dropWhile_cons_of_pos hordinary]
      rfl

theorem readRoute_at (comment r : Text) :
    readRoute comment ('@' :: r) =
      (readPart routeAllowed [] comment r).bind fun p => readRoute p.comment p.rest := by
  rw [readRoute]
  split
  · rename_i hpart
    rw [hpart]
    rfl
  · rename_i hpart
    rw [hpart]
    rfl

theorem readRoute_of_head {cs : Text} (h : cs.head? ≠ some '@') (comment : Text) :
    readRoute comment cs = .ok (comment, cs) := by
  rw [readRoute]
  intro r hr
  exact h (congrArg List.head? hr)

end Address

namespace Reader

open Address (Part angleMailbox domainAllowed entryOf isGap isOrdinary isSpecial joinComment localAllowed
  readAngle readBare readComment readMailbox readPart readQuoted readRoute readToken routeAllowed skipGap
  skipRoute)

/-! ## Readers -/

/-- Part of a mailbox; `s` has its text and the comments so far. -/
def partTurn (allowed : Text) (s : Text × Text) : Reader ParseError ((Text × Text) ⊕ (Text × Text)) := do
  let _ ← passWhile isGap
  match ← peek with
  | none => return .inl s
  | some c =>
    if isSpecial c && !allowed.contains c then return .inl s
    else if c = '(' then
      let _ ← advance
      let body ← comment
      return .inr (s.1, joinComment s.2 body)
    else if c = '"' then
      let _ ← advance
      let body ← quotedString
      return .inr (s.1 ++ Address.quoted body, s.2)
    else
      let t ← token
      return .inr (s.1 ++ t, s.2)

def part (allowed : Text) (s : Text × Text) : Reader ParseError (Text × Text) := loop (partTurn allowed) s

def mailbox (comment : Text) : Reader ParseError (Text × Text) := do
  let s ← part localAllowed ([], comment)
  if (← peek) = some '@' then
    let _ ← advance
    part domainAllowed (s.1 ++ ['@'], s.2)
  else return s

def routeTurn (comment : Text) : Reader ParseError (Text ⊕ Text) := do
  if (← peek) = some '@' then
    let _ ← advance
    let s ← part routeAllowed ([], comment)
    return .inr s.2
  else return .inl comment

/-- A route and its colon, where an at sign stands. -/
def route (comment : Text) : Reader ParseError Text := do
  let _ ← passWhile isGap
  if (← peek) = some '@' then
    let comment ← loop routeTurn comment
    if (← peek) = some ':' then
      let _ ← advance
      return comment
    else throw .badRoute
  else return comment

def angle (name : Option Text) (comment : Text) : Reader ParseError Address := do
  let comment ← route comment
  let s ← mailbox comment
  if (← peek) = some '>' then
    let _ ← advance
    return { entryOf name s.1 s.2 with mailbox := some (angleMailbox s.1) }
  else throw .badRouteAddr

def bare (comment : Text) : Reader ParseError Address := do
  let s ← mailbox comment
  match ← peek with
  | none => return entryOf none s.1 s.2
  | some c => if c = ',' ∨ c = ';' then return entryOf none s.1 s.2 else throw .badAddrSpec

/-! ## Parts -/

/-- What reading a part comes to: its text and the comments, and the rest. -/
def ofPart (found : Except ParseError Part) : Except ParseError ((Text × Text) × Text) :=
  found.map fun p => ((p.text, p.comment), p.rest)

/-- A part ends here. -/
def PartEnds (allowed cs : Text) : Prop :=
  ∀ c ∈ (skipGap cs).head?, (isSpecial c && !allowed.contains c) = true

theorem ofPart_bind {α : Type} (found : Except ParseError α) (next : α → Except ParseError Part) :
    ofPart (found.bind next) = found.bind fun a => ofPart (next a) := by
  cases found <;> rfl

theorem bind_ofPart {α : Type} (found : Except ParseError Part)
    (next : (Text × Text) × Text → Except ParseError α) :
    (ofPart found).bind next = found.bind fun p => next ((p.text, p.comment), p.rest) := by
  cases found <;> rfl

theorem turning_partTurn (allowed : Text) :
    Turning (PartEnds allowed) (partTurn allowed) fun s cs => ofPart (readPart allowed s.1 s.2 cs) := by
  rintro ⟨text, comment⟩ cs
  have hgap := reads_passWhile (ε := ParseError) isGap cs
  cases hskip : skipGap cs with
  | nil =>
    rw [← skipGap, hskip] at hgap
    refine ⟨.ok (.inl (text, comment)), [], hgap.bind ((reads_peek []).bind (reads_pure [] _)), .ends ?_ ?_⟩
    · intro c hc
      rw [hskip] at hc
      cases hc
    · dsimp only
      rw [Address.readPart_skipGap, hskip, Address.readPart_nil]
      rfl
  | cons c r =>
    rw [← skipGap, hskip] at hgap
    have hlt {rest : Text} (h : rest.length ≤ r.length) : rest.length < cs.length := by
      have hle := (Address.suffix_of_skipGap hskip).length_le
      rw [List.length_cons] at hle
      omega
    have hpart := Address.readPart_turn allowed text comment hskip
    by_cases hstop : (isSpecial c && !allowed.contains c) = true
    · rw [if_pos hstop] at hpart
      refine ⟨.ok (.inl (text, comment)), c :: r, hgap.bind ((reads_peek _).bind ?_), .ends ?_ ?_⟩
      · dsimp only [List.head?_cons]
        rw [if_pos hstop]
        exact reads_pure _ _
      · intro c' hc'
        rw [hskip] at hc'
        obtain rfl := Option.some.inj hc'
        exact hstop
      · exact congrArg ofPart hpart
    rw [if_neg hstop] at hpart
    by_cases hopen : c = '('
    · rw [if_pos hopen] at hpart
      refine follows_comment.turns (fun body => (text, joinComment comment body)) (fun h => ?_)
        (fun h _ => hlt h.suffix.length_le) ((congrArg ofPart hpart).trans (ofPart_bind _ _))
      refine hgap.bind ((reads_peek _).bind ?_)
      dsimp only [List.head?_cons]
      rw [if_neg hstop, if_pos hopen]
      exact (reads_advance _).bind h
    rw [if_neg hopen] at hpart
    by_cases hquote : c = '"'
    · rw [if_pos hquote] at hpart
      refine follows_quotedString.turns (fun body => (text ++ Address.quoted body, comment)) (fun h => ?_)
        (fun h _ => hlt h.suffix.length_le) ((congrArg ofPart hpart).trans (ofPart_bind _ _))
      refine hgap.bind ((reads_peek _).bind ?_)
      dsimp only [List.head?_cons]
      rw [if_neg hstop, if_neg hopen, if_pos hquote]
      exact (reads_advance _).bind h
    rw [if_neg hquote] at hpart
    obtain ⟨p, htoken⟩ := Address.exists_readToken hopen hquote r
    have hrest : p.2.length ≤ r.length := Address.readToken_length_lt (Address.skipGap_head hskip) htoken
    refine follows_token.turns (fun t => (text ++ t, comment)) (fun h => ?_) (fun {a rest} _ h => ?_)
      ((congrArg ofPart hpart).trans (ofPart_bind _ _))
    rotate_left
    · rw [htoken] at h
      cases a with
      | error e => cases h
      | ok t =>
        cases h
        exact hlt hrest
    refine hgap.bind ((reads_peek _).bind ?_)
    dsimp only [List.head?_cons]
    rw [if_neg hstop, if_neg hopen, if_neg hquote]
    exact h

theorem follows_part (allowed : Text) (s : Text × Text) :
    (part allowed s).Follows fun cs => ofPart (readPart allowed s.1 s.2 cs) :=
  follows_loop (turning_partTurn allowed) s

/-! ## Mailboxes -/

theorem follows_mailbox (comment : Text) :
    (mailbox comment).Follows fun cs => ofPart (readMailbox comment cs) := by
  intro cs
  have hlocal := follows_part localAllowed ([], comment)
  cases hpart : readPart localAllowed [] comment cs with
  | error e =>
    obtain ⟨rest, hreads⟩ := hlocal.reads_error (congrArg ofPart hpart)
    refine ⟨.error e, rest, hreads.bind_error _, ?_⟩
    simp only [readMailbox, hpart]
    rfl
  | ok p =>
    obtain ⟨text, comment', rest⟩ := p
    have hreads := hlocal.reads (congrArg ofPart hpart)
    by_cases hat : rest.head? = some '@'
    · obtain ⟨r, rfl⟩ := List.head?_eq_some_iff.1 hat
      obtain ⟨a, last, hdomain, hvalue⟩ := follows_part domainAllowed (text ++ ['@'], comment') r
      refine ⟨a, last, hreads.bind ((reads_peek _).bind ((reads_advance _).bind hdomain)), ?_⟩
      simp only [readMailbox, hpart]
      exact hvalue
    · refine ⟨.ok (text, comment'), rest, hreads.bind ((reads_peek _).bind ?_), ?_⟩
      · rw [if_neg hat]
        exact reads_pure _ _
      · simp only [readMailbox, hpart]
        split
        · rename_i heq
          cases heq
          exact absurd rfl hat
        · rfl

/-! ## Angle brackets -/

theorem turning_routeTurn : Turning (fun cs => cs.head? ≠ some '@') routeTurn readRoute := by
  intro comment cs
  by_cases hat : cs.head? = some '@'
  · obtain ⟨r, rfl⟩ := List.head?_eq_some_iff.1 hat
    have hroute : readRoute comment ('@' :: r) =
        (ofPart (readPart routeAllowed [] comment r)).bind fun p => readRoute p.1.2 p.2 := by
      rw [Address.readRoute_at, bind_ofPart]
    exact (follows_part routeAllowed ([], comment)).turns (fun s => s.2)
      (fun h => (reads_peek _).bind ((reads_advance _).bind h))
      (fun h _ => Nat.lt_succ_of_le h.suffix.length_le) hroute
  · refine ⟨.ok (.inl comment), cs, (reads_peek _).bind ?_, .ends hat (Address.readRoute_of_head hat comment)⟩
    rw [if_neg hat]
    exact reads_pure _ _

theorem follows_route (comment : Text) : (route comment).Follows (skipRoute comment) := by
  intro cs
  have hgap := reads_passWhile (ε := ParseError) isGap cs
  rw [← skipGap] at hgap
  by_cases hat : (skipGap cs).head? = some '@'
  · obtain ⟨r, hskip⟩ := List.head?_eq_some_iff.1 hat
    rw [hskip] at hgap
    have hloop := follows_loop turning_routeTurn comment
    cases hroute : readRoute comment ('@' :: r) with
    | error e =>
      obtain ⟨rest, hreads⟩ := hloop.reads_error hroute
      refine ⟨.error e, rest, hgap.bind ((reads_peek _).bind (hreads.bind_error _)), ?_⟩
      simp only [skipRoute, hskip, hroute]
      rfl
    | ok p =>
      obtain ⟨comment', rest⟩ := p
      have hreads := hloop.reads hroute
      by_cases hcolon : rest.head? = some ':'
      · obtain ⟨last, rfl⟩ := List.head?_eq_some_iff.1 hcolon
        refine ⟨.ok comment', last, hgap.bind ((reads_peek _).bind (hreads.bind ((reads_peek _).bind
          ((reads_advance _).bind (reads_pure last _))))), ?_⟩
        simp only [skipRoute, hskip, hroute]
        rfl
      · refine ⟨.error .badRoute, rest, hgap.bind ((reads_peek _).bind (hreads.bind
          ((reads_peek _).bind ?_))), ?_⟩
        · rw [if_neg hcolon]
          exact reads_throw _ _
        · simp only [skipRoute, hskip, hroute]
          split
          · rename_i heq
            cases heq
            exact absurd rfl hcolon
          · rfl
          · rename_i heq
            cases heq
  · refine ⟨.ok comment, skipGap cs, hgap.bind ((reads_peek _).bind ?_), ?_⟩
    · rw [if_neg hat]
      exact reads_pure _ _
    · rw [skipRoute]
      split
      · rename_i hskip
        rw [hskip] at hat
        exact absurd rfl hat
      · rfl

theorem follows_angle (name : Option Text) (comment : Text) :
    (angle name comment).Follows (readAngle name comment) := by
  intro cs
  cases hroute : skipRoute comment cs with
  | error e =>
    obtain ⟨rest, hreads⟩ := (follows_route comment).reads_error hroute
    refine ⟨.error e, rest, hreads.bind_error _, ?_⟩
    simp only [readAngle, hroute]
    rfl
  | ok p =>
    obtain ⟨comment', r⟩ := p
    have hbegin := (follows_route comment).reads hroute
    cases hmailbox : readMailbox comment' r with
    | error e =>
      obtain ⟨rest, hreads⟩ := (follows_mailbox comment').reads_error (congrArg ofPart hmailbox)
      refine ⟨.error e, rest, hbegin.bind (hreads.bind_error _), ?_⟩
      simp only [readAngle, hroute, hmailbox]
      rfl
    | ok p =>
      obtain ⟨text, comment'', rest⟩ := p
      have hreads := (follows_mailbox comment').reads (congrArg ofPart hmailbox)
      by_cases hclose : rest.head? = some '>'
      · obtain ⟨last, rfl⟩ := List.head?_eq_some_iff.1 hclose
        refine ⟨.ok _, last, hbegin.bind (hreads.bind ((reads_peek _).bind
          ((reads_advance _).bind (reads_pure last _)))), ?_⟩
        simp only [readAngle, hroute, hmailbox]
        rfl
      · refine ⟨.error .badRouteAddr, rest, hbegin.bind (hreads.bind ((reads_peek _).bind ?_)), ?_⟩
        · rw [if_neg hclose]
          exact reads_throw _ _
        · simp only [readAngle, hroute, hmailbox]
          split
          · rename_i heq
            cases heq
          · rename_i heq
            cases heq
            exact absurd rfl hclose
          · rfl

theorem reads_bare (phrase comment : Text) :
    ∃ rest, (bare comment).Reads phrase (readBare phrase comment) rest := by
  cases hmailbox : readMailbox comment phrase with
  | error e =>
    obtain ⟨rest, hreads⟩ := (follows_mailbox comment).reads_error (congrArg ofPart hmailbox)
    refine ⟨rest, ?_⟩
    rw [readBare, hmailbox]
    exact hreads.bind_error _
  | ok p =>
    obtain ⟨text, comment', rest⟩ := p
    have hreads := (follows_mailbox comment).reads (congrArg ofPart hmailbox)
    refine ⟨rest, hreads.bind ?_⟩
    rw [readBare, hmailbox]
    cases rest with
    | nil => exact (reads_peek []).bind (reads_pure [] _)
    | cons c r =>
      refine (reads_peek _).bind ?_
      by_cases hseparator : c = ',' ∨ c = ';'
      · dsimp only [List.head?_cons]
        rw [if_pos hseparator]
        rcases hseparator with rfl | rfl
        · exact reads_pure _ _
        · exact reads_pure _ _
      · dsimp only [List.head?_cons]
        rw [if_neg hseparator]
        split
        · rename_i heq
          cases heq
        · rename_i heq
          cases heq
          exact absurd (.inl rfl) hseparator
        · rename_i heq
          cases heq
          exact absurd (.inr rfl) hseparator
        · exact reads_throw _ _

end Reader
end Recipients
