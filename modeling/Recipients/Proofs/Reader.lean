import Recipients.Proofs.Loop
import Recipients.Proofs.Position

/-
  Readers that go through a text character by character. All they can do is to look at the next
  character and to go on behind it, which fails where the position does not allow to read; the rest is
  loops. A reader follows a function of what is left of the text if it yields the same, with the cursor
  in front of the same rest (`Follows`). A loop of which each turn ends it or takes a character at least
  ends with a turn for each character of the text, and one more (`follows_loop`).
-/

namespace Recipients

/-- Reads at a cursor; `none` if the position does not allow to read, or if a loop does not end. -/
abbrev Reader (ε : Type) := ExceptT ε (StateT Cursor Option)

namespace Reader

variable {ε ε' α β σ : Type} {cs rest rest' : Text}

/-- The next character, which stays. -/
def peek : Reader ε (Option Char) := fun z => z.left?.map fun rest => (.ok rest.head?, z)

/-- The next character, which is passed. -/
def advance : Reader ε (Option Char) := fun z =>
  z.left?.map fun rest => (.ok rest.head?, z.advance (Text.bytes (rest.take 1)))

/-- What has been found elsewhere. -/
def ofOption (o : Option α) : Reader ε α := fun z => o.map fun a => (.ok a, z)

/-- A turn of a loop at a cursor. It ends the loop with a value or an error, or leads to the next turn. -/
def turnAt (turn : σ → Reader ε (α ⊕ σ)) (p : σ × Cursor) :
    Option ((Except ε α × Cursor) ⊕ (σ × Cursor)) :=
  (turn p.1 p.2).map fun
    | (.error e, z) => .inl (.error e, z)
    | (.ok (.inl a), z) => .inl (.ok a, z)
    | (.ok (.inr s), z) => .inr (s, z)

/-- A loop with a turn for each character of the text, and one more. -/
def loop (turn : σ → Reader ε (α ⊕ σ)) (s : σ) : Reader ε α := fun z =>
  Loop.run (turnAt turn) (z.text.length + 1) (s, z)

/-- Where `cs` is left of a text, the reader yields `a` and leaves `rest`. -/
structure Reads (m : Reader ε α) (cs : Text) (a : Except ε α) (rest : Text) : Prop where
  run : ∀ {z t}, Cursor.At z t cs → ∃ z', m z = some (a, z') ∧ z'.At t rest
  suffix : rest <:+ cs

/-- The reader does what `read` does with what is left of a text. -/
def Follows (m : Reader ε α) (read : Text → Except ε (α × Text)) : Prop :=
  ∀ cs, ∃ a rest, m.Reads cs a rest ∧ read cs = a.map (·, rest)

/-- What a turn comes to, where `value` is what the loop yields from here on: the loop ends, because
    `stop` holds, or a character at least is taken. -/
inductive Turns (stop : Text → Prop) (value : σ → Text → Except ε (α × Text)) (s : σ) (cs rest : Text) :
    Except ε (α ⊕ σ) → Prop
  | ends {a : α} (hstop : stop cs) (hvalue : value s cs = .ok (a, rest)) :
      Turns stop value s cs rest (.ok (.inl a))
  | goesOn {s' : σ} (hlt : rest.length < cs.length) (hvalue : value s cs = value s' rest) :
      Turns stop value s cs rest (.ok (.inr s'))
  | fails {e : ε} (hlt : rest.length < cs.length) (hvalue : value s cs = .error e) :
      Turns stop value s cs rest (.error e)

/-- Every turn comes to something. -/
def Turning (stop : Text → Prop) (turn : σ → Reader ε (α ⊕ σ))
    (value : σ → Text → Except ε (α × Text)) : Prop :=
  ∀ s cs, ∃ a rest, (turn s).Reads cs a rest ∧ Turns stop value s cs rest a

/-- At a cursor where `cs` is left of the text `t`, the reader takes a character at least and stays in
    the text, between two characters. -/
def Advances (m : Reader ε α) (t cs : Text) (z : Cursor) : Prop :=
  ∃ a z' c read rest, m z = some (a, z') ∧ cs = c :: read ++ rest ∧ z'.At t rest ∧
    z'.pos = z.pos + Text.bytes (c :: read) ∧ String.Pos.Raw.IsValid (String.ofList t) ⟨z'.pos⟩

/-! ## Steps -/

theorem reads_pure (cs : Text) (a : α) : (pure a : Reader ε α).Reads cs (.ok a) cs :=
  ⟨fun {z _} h => ⟨z, rfl, h⟩, List.suffix_rfl⟩

theorem reads_throw (cs : Text) (e : ε) : (throw e : Reader ε α).Reads cs (.error e) cs :=
  ⟨fun {z _} h => ⟨z, rfl, h⟩, List.suffix_rfl⟩

theorem reads_ofOption (cs : Text) (a : α) : (ofOption (some a) : Reader ε α).Reads cs (.ok a) cs :=
  ⟨fun {z _} h => ⟨z, rfl, h⟩, List.suffix_rfl⟩

theorem reads_peek (cs : Text) : (peek : Reader ε (Option Char)).Reads cs (.ok cs.head?) cs := by
  refine ⟨fun {z t} h => ⟨z, ?_, h⟩, List.suffix_rfl⟩
  rw [peek, h.left]
  rfl

theorem reads_advance (cs : Text) :
    (advance : Reader ε (Option Char)).Reads cs (.ok cs.head?) cs.tail := by
  refine ⟨fun {z t} h => ⟨z.advance (Text.bytes (cs.take 1)), ?_, ?_⟩, List.tail_suffix cs⟩
  · rw [advance, h.left]
    rfl
  · refine Cursor.At.advance ?_
    rw [← List.drop_one, List.take_append_drop]
    exact h

theorem Reads.bind {m : Reader ε α} {k : α → Reader ε β} {a : α} {b : Except ε β}
    (hm : m.Reads cs (.ok a) rest) (hk : (k a).Reads rest b rest') : (m >>= k).Reads cs b rest' := by
  refine ⟨fun {z t} h => ?_, hk.suffix.trans hm.suffix⟩
  obtain ⟨z', hrun, hat⟩ := hm.run h
  obtain ⟨z'', hrun', hat'⟩ := hk.run hat
  refine ⟨z'', ?_, hat'⟩
  show (m z).bind (fun p => ExceptT.bindCont k p.1 p.2) = _
  rw [hrun]
  exact hrun'

theorem Reads.bind_error {m : Reader ε α} {e : ε} (hm : m.Reads cs (.error e) rest)
    (k : α → Reader ε β) : (m >>= k).Reads cs (.error e) rest := by
  refine ⟨fun {z t} h => ?_, hm.suffix⟩
  obtain ⟨z', hrun, hat⟩ := hm.run h
  refine ⟨z', ?_, hat⟩
  show (m z).bind (fun p => ExceptT.bindCont k p.1 p.2) = _
  rw [hrun]
  rfl

theorem Reads.adapt {m : Reader ε α} {a : Except ε α} (hm : m.Reads cs a rest) (f : ε → ε') :
    Reads (ExceptT.adapt f m) cs (a.mapError f) rest := by
  refine ⟨fun {z t} h => ?_, hm.suffix⟩
  obtain ⟨z', hrun, hat⟩ := hm.run h
  refine ⟨z', ?_, hat⟩
  show (m z).bind (fun p => some (p.1.mapError f, p.2)) = _
  rw [hrun]
  rfl

theorem Follows.reads {m : Reader ε α} {read : Text → Except ε (α × Text)} (hm : m.Follows read) {a : α}
    (h : read cs = .ok (a, rest)) : m.Reads cs (.ok a) rest := by
  obtain ⟨a', rest', hreads, hvalue⟩ := hm cs
  cases a' with
  | error e => cases h.symm.trans hvalue
  | ok a' =>
    cases h.symm.trans hvalue
    exact hreads

theorem Follows.reads_error {m : Reader ε α} {read : Text → Except ε (α × Text)} (hm : m.Follows read)
    {e : ε} (h : read cs = .error e) : ∃ rest, m.Reads cs (.error e) rest := by
  obtain ⟨a', rest', hreads, hvalue⟩ := hm cs
  cases a' with
  | error e' =>
    cases h.symm.trans hvalue
    exact ⟨rest', hreads⟩
  | ok a' => cases h.symm.trans hvalue

theorem Reads.advances {m : Reader ε α} {a : Except ε α} (hm : m.Reads cs a rest)
    (hlt : rest.length < cs.length) {z : Cursor} {t : Text} (hat : z.At t cs) : m.Advances t cs z := by
  obtain ⟨z', hrun, hat'⟩ := hm.run hat
  obtain ⟨taken, htaken⟩ := hm.suffix
  cases taken with
  | nil =>
    rw [← htaken] at hlt
    exact absurd hlt (Nat.lt_irrefl _)
  | cons c read =>
    exact ⟨a, z', c, read, rest, hrun, htaken.symm, hat', Cursor.At.pos_eq (htaken ▸ hat) hat', hat'.isValid⟩

/-! ## Loops -/

theorem Turning.advances {stop : Text → Prop} {turn : σ → Reader ε (α ⊕ σ)}
    {value : σ → Text → Except ε (α × Text)} (h : Turning stop turn value) (hstop : ¬ stop cs) {z : Cursor}
    {t : Text} (hat : z.At t cs) (s : σ) : (turn s).Advances t cs z := by
  obtain ⟨a, rest, hreads, hturns⟩ := h s cs
  cases hturns with
  | ends hends hvalue => exact absurd hends hstop
  | goesOn hlt hvalue => exact hreads.advances hlt hat
  | fails hlt hvalue => exact hreads.advances hlt hat

/-- By induction on what is left: with enough turns the loop comes to its value, in front of one rest
    wherever the text begins. -/
theorem exists_loop {stop : Text → Prop} {turn : σ → Reader ε (α ⊕ σ)}
    {value : σ → Text → Except ε (α × Text)} (h : Turning stop turn value) (s : σ) (cs : Text) :
    ∃ a rest, value s cs = a.map (·, rest) ∧ rest <:+ cs ∧
      ∀ {z t turns}, Cursor.At z t cs → cs.length ≤ turns →
        ∃ z', Loop.run (turnAt turn) (turns + 1) (s, z) = some (a, z') ∧ z'.At t rest := by
  induction hn : cs.length using Nat.strongRecOn generalizing s cs with
  | ind n ih =>
    obtain ⟨a, rest, hreads, hturns⟩ := h s cs
    cases hturns with
    | @ends a hstop hvalue =>
      refine ⟨.ok a, rest, hvalue, hreads.suffix, fun {z t turns} hat _ => ?_⟩
      obtain ⟨z', hrun, hat'⟩ := hreads.run hat
      refine ⟨z', ?_, hat'⟩
      rw [Loop.run, turnAt, hrun]
      rfl
    | @fails e hlt hvalue =>
      refine ⟨.error e, rest, hvalue, hreads.suffix, fun {z t turns} hat _ => ?_⟩
      obtain ⟨z', hrun, hat'⟩ := hreads.run hat
      refine ⟨z', ?_, hat'⟩
      rw [Loop.run, turnAt, hrun]
      rfl
    | @goesOn s' hlt hvalue =>
      obtain ⟨a, last, hvalue', hsuffix, hlast⟩ := ih rest.length (hn ▸ hlt) s' rest rfl
      refine ⟨a, last, hvalue.trans hvalue', hsuffix.trans hreads.suffix, fun {z t turns} hat hle => ?_⟩
      obtain ⟨z', hrun, hat'⟩ := hreads.run hat
      obtain ⟨left, rfl⟩ : ∃ left, turns = left + 1 := ⟨turns - 1, by omega⟩
      have hleft : rest.length ≤ left := by omega
      obtain ⟨z'', hrun', hat''⟩ := hlast hat' hleft
      refine ⟨z'', ?_, hat''⟩
      rw [Loop.run, turnAt, hrun]
      exact hrun'

theorem follows_loop {stop : Text → Prop} {turn : σ → Reader ε (α ⊕ σ)}
    {value : σ → Text → Except ε (α × Text)} (h : Turning stop turn value) (s : σ) :
    (loop turn s).Follows (value s) := by
  intro cs
  obtain ⟨a, rest, hvalue, hsuffix, hrun⟩ := exists_loop h s cs
  refine ⟨a, rest, ⟨fun {z t} hat => hrun hat ?_, hsuffix⟩, hvalue⟩
  rw [hat.text]
  exact hat.suffix.length_le

/-- A turn that reads something and goes on with it. -/
theorem Follows.turns {m : Reader ε β} {read : Text → Except ε (β × Text)} (hm : m.Follows read)
    {stop : Text → Prop} {turn : σ → Reader ε (α ⊕ σ)} {value : σ → Text → Except ε (α × Text)} {s : σ}
    {r : Text} (next : β → σ)
    (hturn : ∀ {a rest}, Reads (m >>= fun b => pure (.inr (next b))) r a rest → (turn s).Reads cs a rest)
    (hlt : ∀ {a rest}, m.Reads r a rest → read r = a.map (·, rest) → rest.length < cs.length)
    (hvalue : value s cs = (read r).bind fun p => value (next p.1) p.2) :
    ∃ a rest, (turn s).Reads cs a rest ∧ Turns stop value s cs rest a := by
  obtain ⟨a, rest, hreads, hread⟩ := hm r
  have hrest := hlt hreads hread
  rw [hread] at hvalue
  cases a with
  | error e => exact ⟨.error e, rest, hturn (hreads.bind_error _), .fails hrest hvalue⟩
  | ok b => exact ⟨.ok (.inr (next b)), rest, hturn (hreads.bind (reads_pure rest _)), .goesOn hrest hvalue⟩

/-! ## Characters of one kind -/

def passTurn (p : Char → Bool) (read : Text) : Reader ε (Text ⊕ Text) := do
  match ← peek with
  | none => return .inl read
  | some c =>
    if p c then
      let _ ← advance
      return .inr (read ++ [c])
    else return .inl read

def passWhile (p : Char → Bool) : Reader ε Text := loop (passTurn p) []

theorem turning_passTurn (p : Char → Bool) : Turning (fun cs => cs.head?.any p = false) (passTurn (ε := ε) p)
    fun read cs => .ok (read ++ cs.takeWhile p, cs.dropWhile p) := by
  intro read cs
  cases cs with
  | nil =>
    refine ⟨.ok (.inl read), [], (reads_peek []).bind (reads_pure [] _), .ends rfl ?_⟩
    rw [List.takeWhile_nil, List.append_nil]
    rfl
  | cons c r =>
    cases hc : p c with
    | true =>
      refine ⟨.ok (.inr (read ++ [c])), r, (reads_peek _).bind ?_, .goesOn (Nat.lt_succ_self _) ?_⟩
      · dsimp only [List.head?_cons]
        rw [if_pos hc]
        exact (reads_advance _).bind (reads_pure r _)
      · simp [hc]
    | false =>
      refine ⟨.ok (.inl read), c :: r, (reads_peek _).bind ?_, .ends hc ?_⟩
      · dsimp only [List.head?_cons]
        rw [if_neg (by simp [hc])]
        exact reads_pure _ _
      · simp [hc]

theorem reads_passWhile (p : Char → Bool) (cs : Text) :
    (passWhile p : Reader ε Text).Reads cs (.ok (cs.takeWhile p)) (cs.dropWhile p) :=
  (follows_loop (turning_passTurn p) []).reads rfl

end Reader
end Recipients
