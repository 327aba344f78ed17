import Recipients.Proofs.Address.MailboxByCharacter
import Recipients.Proofs.AddressList.Scan

/-
  Lists of entries read character by character. The loop over the entries takes a character at least in
  each turn, also in one that fails (`turning_scanTurn`), so reading ends on any text, within the text
  and with what `parseOnto` yields (`parseOnto_byCharacter`). The words of a bare entry are read once
  more, at a cursor of their own.
-/

namespace Recipients
namespace AddressList

open Address (isGap readComment readQuoted readAngle readToken skipGap)
open Reader (peek advance loop passWhile ofOption quotedString angle token bare Turning
  Turns PartEnds partTurn routeTurn)

namespace Draft

/-- What `close` does, where the words collected are read at a cursor. -/
def closeAt? (d : Draft) : Option Draft :=
  if d.phrase.isEmpty then some d.close
  else (bare d.comment ⟨d.phrase, 0⟩).map fun
    | (.ok a, _) => { d with entries := d.entries ++ [a], count := d.count + 1 }
    | (.error _, _) => d

/-- What `step` does with the character `c` that stands at the cursor. -/
def stepAt (d : Draft) (gap : Bool) (c : Char) : Reader ParseError Draft :=
  if c = ',' then do
    let closed ← ofOption d.closeAt?
    let _ ← advance
    return closed.clear
  else if c = ';' then do
    let closed ← ofOption d.closeAt?
    let _ ← advance
    return closed.push Address.groupEnd 0
  else if c = ':' then do
    let _ ← advance
    return d.push (Address.groupMarker d.phrase) 0
  else if c = '(' then do
    let _ ← advance
    let body ← Reader.comment
    return { d with comment := Address.joinComment d.comment body }
  else if c = '"' then do
    let _ ← advance
    let body ← quotedString
    let text := if (← peek) = some '@' then Address.quoted body else body
    return { d with phrase := d.joined true ++ text }
  else if c = '<' then do
    let _ ← advance
    let a ← angle (if d.phrase.isEmpty then none else some d.phrase) d.comment
    return d.push a 1
  else if c = '\\' then do
    let _ ← advance
    let escaped ← advance
    let t ← token
    return { d with phrase := d.joined gap ++ escaped.toList ++ t }
  else do
    let t ← token
    return { d with phrase := d.joined gap ++ t }

end Draft

/-- A draft with white space before what is left, or without. -/
def scanTurn (s : Draft × Bool) : Reader (Draft × ParseError) (Draft ⊕ (Draft × Bool)) := do
  match ← peek with
  | none =>
    let closed ← ofOption s.1.closeAt?
    return .inl closed
  | some c =>
    let d ← ExceptT.adapt (s.1, ·) (s.1.stepAt s.2 c)
    let gap := (← peek).any isGap
    let _ ← passWhile isGap
    return .inr (d, gap)

/-- Reads entries onto a list; an error comes with the draft so far. -/
def onto (l : AddressList) : Reader (Draft × ParseError) Draft := do
  let _ ← passWhile isGap
  loop scanTurn ({ entries := l }, false)

/-- The list afterwards, as `parseOnto` yields it. -/
def outcome (l : AddressList) : Except (Draft × ParseError) Draft → AddressList × Except ParseError Nat
  | .ok d => (d.entries, .ok d.count)
  | .error (d, e) => (d.entries.take l.length, .error e)

/-! ## One turn -/

namespace Draft

theorem closeAt?_eq (d : Draft) : d.closeAt? = some d.close := by
  rw [closeAt?]
  split
  · rfl
  · rename_i hphrase
    obtain ⟨rest, hreads⟩ := Reader.reads_bare d.phrase d.comment
    obtain ⟨z, hrun, -⟩ := hreads.run (Cursor.At.start d.phrase)
    rw [hrun, close, if_neg hphrase, Address.bareEntry?]
    cases Address.readBare d.phrase d.comment with
    | error e => rfl
    | ok a => rfl

/-- What a step with the character `c` comes to: it takes this character, unless that is white space,
    which the reader passes behind every step. -/
inductive Steps (d : Draft) (gap : Bool) (c : Char) (r : Text) : Except ParseError Draft → Text → Prop
  | takes {a : Except ParseError Draft} {rest : Text} (hlength : rest.length ≤ r.length)
      (hstep : d.step gap c r = a.map (·, rest)) : Steps d gap c r a rest
  | stays {d' : Draft} (hgap : isGap c = true) (hstep : d.step gap c r = .ok (d', c :: r)) :
      Steps d gap c r (.ok d') (c :: r)

/-- A step that reads something behind the character. -/
theorem steps_of_follows {α : Type} {m : Reader ParseError α} {read : Text → Except ParseError (α × Text)}
    (hm : m.Follows read) {d : Draft} {gap : Bool} {c : Char} {r : Text} (behind : Text) (next : α → Draft)
    (hstepAt : ∀ {a rest}, (m >>= fun b => pure (next b)).Reads behind a rest → (d.stepAt gap c).Reads (c :: r) a rest)
    (hbehind : behind <:+ r)
    (hstep : d.step gap c r = (read behind).map fun p => (next p.1, p.2)) :
    ∃ a rest, (d.stepAt gap c).Reads (c :: r) a rest ∧ Steps d gap c r a rest := by
  obtain ⟨a, rest, hreads, hread⟩ := hm behind
  rw [hread] at hstep
  have hlength : rest.length ≤ r.length := (hreads.suffix.trans hbehind).length_le
  cases a with
  | error e => exact ⟨.error e, rest, hstepAt (hreads.bind_error _), .takes hlength hstep⟩
  | ok b => exact ⟨.ok (next b), rest, hstepAt (hreads.bind (Reader.reads_pure rest _)), .takes hlength hstep⟩

theorem steps_quote (d : Draft) (gap : Bool) (r : Text) :
    ∃ a rest, (d.stepAt gap '"').Reads ('"' :: r) a rest ∧ Steps d gap '"' r a rest := by
  obtain ⟨a, rest, hreads, hread⟩ := Reader.follows_quotedString r
  have hlength := hreads.suffix.length_le
  cases a with
  | error e =>
    refine ⟨.error e, rest, (Reader.reads_advance _).bind (hreads.bind_error _), .takes hlength ?_⟩
    simp only [step, hread]
    rfl
  | ok body =>
    refine ⟨.ok _, rest, (Reader.reads_advance _).bind (hreads.bind ((Reader.reads_peek rest).bind
      (Reader.reads_pure rest _))), .takes hlength ?_⟩
    simp only [step, hread]
    simp [Except.map]

theorem steps_escape (d : Draft) (gap : Bool) (r : Text) :
    ∃ a rest, (d.stepAt gap '\\').Reads ('\\' :: r) a rest ∧ Steps d gap '\\' r a rest := by
  have hescaped : r.head?.toList = r.take 1 := by cases r <;> rfl
  refine steps_of_follows Reader.follows_token r.tail
    (fun t => { d with phrase := d.joined gap ++ r.take 1 ++ t }) (fun h => ?_) (List.tail_suffix r) ?_
  · rw [← hescaped] at h
    exact (Reader.reads_advance _).bind ((Reader.reads_advance r).bind h)
  · simp only [step]
    cases readToken r.tail <;> rfl

theorem steps_word (d : Draft) (gap : Bool) {c : Char} (hc : IsWordStart c) (r : Text) :
    ∃ a rest, (d.stepAt gap c).Reads (c :: r) a rest ∧ Steps d gap c r a rest := by
  have hne := hc
  simp only [IsWordStart, List.mem_cons, List.not_mem_nil, or_false, not_or] at hne
  obtain ⟨hcomma, hsemicolon, hcolon, hopen, hquote, hangle, hescape⟩ := hne
  obtain ⟨p, htoken⟩ := Address.exists_readToken hopen hquote r
  have hstep : d.step gap c r = .ok ({ d with phrase := d.joined gap ++ p.1 }, p.2) :=
    step_word gap hc htoken
  refine ⟨.ok { d with phrase := d.joined gap ++ p.1 }, p.2, ?_, ?_⟩
  · rw [stepAt, if_neg hcomma, if_neg hsemicolon, if_neg hcolon, if_neg hopen, if_neg hquote,
      if_neg hangle, if_neg hescape]
    exact (Reader.follows_token.reads htoken).bind (Reader.reads_pure _ _)
  · cases hgap : isGap c with
    | false => exact .takes (Address.readToken_length_lt hgap htoken) hstep
    | true =>
      -- White space is no part of a token, so the step takes nothing here.
      cases htoken.symm.trans (Address.readToken_gap hgap r)
      exact .stays hgap hstep

theorem reads_stepAt (d : Draft) (gap : Bool) (c : Char) (r : Text) :
    ∃ a rest, (d.stepAt gap c).Reads (c :: r) a rest ∧ Steps d gap c r a rest := by
  by_cases hcomma : c = ','
  · subst hcomma
    refine ⟨.ok d.close.clear, r, ?_, .takes (Nat.le_refl _) rfl⟩
    rw [stepAt, if_pos rfl, closeAt?_eq]
    exact (Reader.reads_ofOption _ _).bind ((Reader.reads_advance _).bind (Reader.reads_pure r _))
  by_cases hsemicolon : c = ';'
  · subst hsemicolon
    refine ⟨.ok (d.close.push Address.groupEnd 0), r, ?_, .takes (Nat.le_refl _) rfl⟩
    rw [stepAt, if_neg hcomma, if_pos rfl, closeAt?_eq]
    exact (Reader.reads_ofOption _ _).bind ((Reader.reads_advance _).bind (Reader.reads_pure r _))
  by_cases hcolon : c = ':'
  · subst hcolon
    exact ⟨.ok (d.push (Address.groupMarker d.phrase) 0), r,
      (Reader.reads_advance _).bind (Reader.reads_pure r _), .takes (Nat.le_refl _) rfl⟩
  by_cases hopen : c = '('
  · subst hopen
    refine steps_of_follows Reader.follows_comment r
      (fun body => { d with comment := Address.joinComment d.comment body })
      (fun h => (Reader.reads_advance _).bind h) List.suffix_rfl ?_
    simp only [step]
    cases readComment 0 r <;> rfl
  by_cases hquote : c = '"'
  · subst hquote
    exact steps_quote d gap r
  by_cases hangle : c = '<'
  · subst hangle
    refine steps_of_follows (Reader.follows_angle _ d.comment) r (fun a => d.push a 1)
      (fun h => (Reader.reads_advance _).bind h) List.suffix_rfl ?_
    simp only [step]
    cases readAngle (if d.phrase.isEmpty then none else some d.phrase) d.comment r <;> rfl
  by_cases hescape : c = '\\'
  · subst hescape
    exact steps_escape d gap r
  · refine steps_word d gap ?_ r
    simp [IsWordStart, hcomma, hsemicolon, hcolon, hopen, hquote, hangle, hescape]

theorem Steps.error {d : Draft} {gap : Bool} {c : Char} {r rest : Text} {e : ParseError}
    (h : Steps d gap c r (.error e) rest) : rest.length ≤ r.length ∧ d.step gap c r = .error e := by
  cases h with
  | takes hlength hstep => exact ⟨hlength, hstep⟩

theorem Steps.ok {d d' : Draft} {gap : Bool} {c : Char} {r rest : Text}
    (h : Steps d gap c r (.ok d') rest) :
    (skipGap rest).length ≤ r.length ∧ d.step gap c r = .ok (d', rest) := by
  cases h with
  | takes hlength hstep => exact ⟨(Address.skipGap_length_le rest).trans hlength, hstep⟩
  | stays hgap hstep =>
    refine ⟨?_, hstep⟩
    rw [skipGap, List.dropWhile_cons_of_pos hgap]
    exact Address.skipGap_length_le r

end Draft

/-! ## The loop over the entries -/

def ofScan : Draft × Option ParseError → Except (Draft × ParseError) (Draft × Text)
  | (d, none) => .ok (d, [])
  | (d, some e) => .error (d, e)

/-- What the loop yields, where white space has been passed. -/
def scanFrom (s : Draft × Bool) : Text → Except (Draft × ParseError) (Draft × Text)
  | [] => .ok (s.1.close, [])
  | c :: r =>
    match s.1.step s.2 c r with
    | .error e => .error (s.1, e)
    | .ok (d, rest) => ofScan (d.scan rest)

theorem ofScan_scan (d : Draft) (cs : Text) :
    ofScan (d.scan cs) = scanFrom (d, cs.head?.any isGap) (skipGap cs) := by
  cases hskip : skipGap cs with
  | nil =>
    rw [Draft.scan_end hskip]
    rfl
  | cons c r =>
    cases hstep : d.step (cs.head?.any isGap) c r with
    | error e =>
      rw [Draft.scan_error hskip hstep]
      simp only [scanFrom, hstep]
      rfl
    | ok p =>
      rw [Draft.scan_step hskip hstep]
      simp only [scanFrom, hstep]

theorem turning_scanTurn : Turning (fun cs => cs = []) scanTurn scanFrom := by
  rintro ⟨d, gap⟩ cs
  cases cs with
  | nil =>
    refine ⟨.ok (.inl d.close), [], (Reader.reads_peek []).bind ?_, .ends rfl rfl⟩
    dsimp only [List.head?_nil]
    rw [Draft.closeAt?_eq]
    exact (Reader.reads_ofOption [] d.close).bind (Reader.reads_pure [] _)
  | cons c r =>
    obtain ⟨a, rest, hreads, hsteps⟩ := Draft.reads_stepAt d gap c r
    have hstep := hreads.adapt (d, ·)
    cases a with
    | error e =>
      obtain ⟨hlength, herror⟩ := hsteps.error
      refine ⟨.error (d, e), rest, (Reader.reads_peek _).bind (hstep.bind_error _),
        .fails (Nat.lt_succ_of_le hlength) ?_⟩
      simp only [scanFrom, herror]
    | ok d' =>
      obtain ⟨hlength, hok⟩ := hsteps.ok
      refine ⟨.ok (.inr (d', rest.head?.any isGap)), skipGap rest, (Reader.reads_peek _).bind
        (hstep.bind ((Reader.reads_peek rest).bind ((Reader.reads_passWhile isGap rest).bind
          (Reader.reads_pure _ _)))), .goesOn (Nat.lt_succ_of_le hlength) ?_⟩
      simp only [scanFrom, hok]
      exact ofScan_scan d' rest

/-! ## Lists -/

theorem scanFrom_gap {d : Draft} (hd : d.phrase = []) (gap gap' : Bool) (cs : Text) :
    scanFrom (d, gap) cs = scanFrom (d, gap') cs := by
  cases cs with
  | nil => rfl
  | cons c r => simp only [scanFrom, Draft.step_gap hd gap gap']

theorem follows_onto (l : AddressList) :
    (onto l).Follows fun cs => ofScan (Draft.scan { entries := l } cs) := by
  intro cs
  obtain ⟨a, rest, hreads, hvalue⟩ :=
    Reader.follows_loop turning_scanTurn ({ entries := l }, false) (skipGap cs)
  refine ⟨a, rest, (Reader.reads_passWhile isGap cs).bind hreads, ?_⟩
  rw [← hvalue]
  exact (ofScan_scan _ cs).trans (scanFrom_gap rfl _ _ _)

theorem outcome_of_scan {l : AddressList} {t rest : Text} {a : Except (Draft × ParseError) Draft}
    (h : ofScan (Draft.scan { entries := l } t) = a.map (·, rest)) : outcome l a = parseOnto l t := by
  rw [parseOnto]
  generalize Draft.scan { entries := l } t = found at h ⊢
  obtain ⟨d, _ | e⟩ := found
  · cases a with
    | error e => cases h
    | ok d' =>
      cases h
      rfl
  · cases a with
    | error e =>
      cases h
      rfl
    | ok d' => cases h

/-- Reading address text makes progress at every place of it. On any text it ends, with what `parseOnto`
    yields, and the position is never past the end or inside a character, where nothing could be read.
    Each turn of the loop over the entries takes a character at least, and so do those for a part of a
    mailbox and for a route, wherever these do not end. -/
theorem parseOnto_byCharacter (t : Text) :
    (∀ l, ∃ a z, onto l ⟨t, 0⟩ = some (a, z) ∧ String.Pos.Raw.IsValid (String.ofList t) ⟨z.pos⟩ ∧
      outcome l a = parseOnto l t) ∧
    (∀ z cs, Cursor.At z t cs → cs ≠ [] → ∀ s, (scanTurn s).Advances t cs z) ∧
    (∀ z cs allowed, Cursor.At z t cs → ¬ PartEnds allowed cs →
      ∀ s, (partTurn allowed s).Advances t cs z) ∧
    ∀ z cs, Cursor.At z t cs → cs.head? = some '@' → ∀ comment, (routeTurn comment).Advances t cs z := by
  refine ⟨fun l => ?_, fun z cs hat hcs => turning_scanTurn.advances hcs hat,
    fun z cs allowed hat hends => (Reader.turning_partTurn allowed).advances hends hat,
    fun z cs hat hcs => Reader.turning_routeTurn.advances (not_not.2 hcs) hat⟩
  obtain ⟨a, rest, hreads, hvalue⟩ := follows_onto l t
  obtain ⟨z, hrun, hat⟩ := hreads.run (Cursor.At.start t)
  exact ⟨a, z, hrun, hat.isValid, outcome_of_scan hvalue⟩

/-- A route with a comment that is not closed, a quotation mark in it and a backslash at the end. -/
theorem parseOnto_byCharacter_unclosed :
    let t := "<@é,(\"\\".toList
    (∃ a z, onto [] ⟨t, 0⟩ = some (a, z) ∧ outcome [] a = parseOnto [] t) ∧
    (∀ s, (scanTurn s).Advances t t ⟨t, 0⟩) ∧
    (∀ s, (partTurn Address.routeAllowed s).Advances t (t.drop 2) ⟨t, 2⟩) ∧
    ∀ comment, (routeTurn comment).Advances t (t.drop 1) ⟨t, 1⟩ := by
  obtain ⟨hends, hscan, hpart, hroute⟩ := parseOnto_byCharacter "<@é,(\"\\".toList
  obtain ⟨a, z, hrun, -, houtcome⟩ := hends []
  have hname : ¬ PartEnds Address.routeAllowed ("<@é,(\"\\".toList.drop 2) :=
    fun h => absurd (h 'é' rfl) (by decide)
  exact ⟨⟨a, z, hrun, houtcome⟩, hscan _ _ (Cursor.At.start _) (List.cons_ne_nil _ _),
    hpart _ _ _ ⟨rfl, rfl⟩ hname, hroute _ _ ⟨rfl, rfl⟩ rfl⟩

end AddressList
end Recipients
