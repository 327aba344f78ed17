import Recipients.AddressList.Parser
import Recipients.Proofs.Address.WellFormed
import Recipients.Proofs.Text

/-
  What the readers of mailboxes make of text that is spelled out: a run of ordinary characters is
  read in one go (`runs_induction` takes a text apart accordingly), a quoted string is read as what
  was quoted, and a part of a mailbox is read up to where it stops.
-/

namespace Recipients
namespace Address

theorem isOrdinary_iff {c : Char} : isOrdinary c = true ↔ isGap c = false ∧ isSpecial c = false := by
  simp [isOrdinary]

theorem isGap_of_isSpecial {c : Char} (h : isSpecial c = true) : isGap c = false := by
  unfold isSpecial specials at h
  rw [List.contains_eq_mem, decide_eq_true_eq] at h
  have hgap : ∀ c ∈ "\"(),.:;<>@[\\]".toList, isGap c = false := Text.forall_mem_of_all (by decide)
  exact hgap c h

/-! ## Text as runs of ordinary characters -/

/-- A run of ordinary characters does not go on in `t`. -/
def Stops (t : Text) : Prop := ∀ c ∈ t.head?, isOrdinary c = false

theorem stops_nil : Stops [] := fun _ h => (nomatch h)

theorem stops_cons {c : Char} {t : Text} : Stops (c :: t) ↔ isOrdinary c = false := by
  simp [Stops]

theorem Stops.append {t u : Text} (ht : Stops t) (hu : Stops u) : Stops (t ++ u) := by
  cases t with
  | nil => exact hu
  | cons c t => exact stops_cons.2 (stops_cons.1 ht)

theorem takeWhile_run {w t : Text} (hw : ∀ c ∈ w, isOrdinary c = true) (ht : Stops t) :
    (w ++ t).takeWhile isOrdinary = w := by
  rw [List.takeWhile_append_of_pos hw]
  cases t with
  | nil => simp
  | cons c t => simp [stops_cons.1 ht]

theorem dropWhile_run {w t : Text} (hw : ∀ c ∈ w, isOrdinary c = true) (ht : Stops t) :
    (w ++ t).dropWhile isOrdinary = t := by
  rw [List.dropWhile_append_of_pos hw]
  cases t with
  | nil => rfl
  | cons c t => exact List.dropWhile_cons_of_neg (by simp [stops_cons.1 ht])

theorem stops_dropWhile (t : Text) : Stops (t.dropWhile isOrdinary) := by
  intro c hc
  have := List.head?_dropWhile_not isOrdinary t
  rw [Option.mem_def] at hc
  rw [hc] at this
  simpa using this

/-- A text that begins with an ordinary character is a run and what stops it. -/
theorem exists_run {c : Char} (hc : isOrdinary c = true) (r : Text) :
    ∃ w u, c :: r = w ++ u ∧ w ≠ [] ∧ (∀ d ∈ w, isOrdinary d = true) ∧ Stops u ∧
      w = (c :: r).takeWhile isOrdinary ∧ u = r.dropWhile isOrdinary := by
  refine ⟨(c :: r).takeWhile isOrdinary, (c :: r).dropWhile isOrdinary,
    List.takeWhile_append_dropWhile.symm, ?_, ?_, stops_dropWhile _, rfl,
    List.dropWhile_cons_of_pos hc⟩
  · rw [List.takeWhile_cons_of_pos hc]
    exact List.cons_ne_nil _ _
  · exact fun d hd => List.all_eq_true.1 List.all_takeWhile d hd

/-- Every text is taken apart into runs of ordinary characters and single other characters. -/
theorem runs_induction {P : Text → Prop} (nil : P [])
    (run : ∀ w t, w ≠ [] → (∀ c ∈ w, isOrdinary c = true) → Stops t → P t → P (w ++ t))
    (char : ∀ c t, isOrdinary c = false → P t → P (c :: t)) (t : Text) : P t := by
  match t with
  | [] => exact nil
  | c :: r =>
    cases hc : isOrdinary c with
    | false => exact char c r hc (runs_induction nil run char r)
    | true =>
      have hrun := run (c :: r.takeWhile isOrdinary) (r.dropWhile isOrdinary) (by simp)
      rw [List.cons_append, List.takeWhile_append_dropWhile] at hrun
      refine hrun ?_ (stops_dropWhile r) (runs_induction nil run char _)
      intro d hd
      rcases List.mem_cons.1 hd with rfl | hd
      · exact hc
      · exact List.all_eq_true.1 (List.all_takeWhile (l := r)) d hd
termination_by t.length
decreasing_by
  · simp
  · have := length_dropWhile_le isOrdinary r
    simp only [List.length_cons]
    omega

/-! ## Quoted strings -/

theorem escape_cons (c : Char) (t : Text) :
    escape (c :: t) = (if c = '\\' ∨ c = '"' then ['\\', c] else [c]) ++ escape t := rfl

theorem quoted_append (s t : Text) : quoted s ++ t = '"' :: (escape s ++ '"' :: t) := by
  simp [quoted]

theorem readQuoted_escape (s rest : Text) : readQuoted (escape s ++ '"' :: rest) = .ok (s, rest) := by
  induction s with
  | nil => simp [escape, readQuoted]
  | cons c s ih =>
    rw [escape_cons]
    split
    · rw [List.append_assoc, List.cons_append, List.cons_append, List.nil_append, readQuoted, ih]
      rfl
    · rename_i hc
      rw [not_or] at hc
      rw [List.append_assoc, List.cons_append, List.nil_append]
      have hplain : readQuoted (c :: (escape s ++ '"' :: rest)) =
          (readQuoted (escape s ++ '"' :: rest)).cons c := by
        rw [readQuoted]
        all_goals simp_all
      rw [hplain, ih]
      rfl

/-! ## Tokens -/

theorem readToken_run {w t : Text} (hne : w ≠ []) (hw : ∀ c ∈ w, isOrdinary c = true)
    (ht : Stops t) : readToken (w ++ t) = .ok (w, t) := by
  cases w with
  | nil => exact absurd rfl hne
  | cons c w =>
    have hc : isSpecial c = false := (isOrdinary_iff.1 (hw c List.mem_cons_self)).2
    have hparen : c ≠ '(' := by
      rintro rfl
      exact absurd hc (by decide)
    have hquote : c ≠ '"' := by
      rintro rfl
      exact absurd hc (by decide)
    simp only [List.cons_append, readToken, hparen, hquote, hc, ↓reduceIte, Bool.false_eq_true]
    rw [← List.cons_append, takeWhile_run hw ht, dropWhile_run hw ht]

theorem readToken_special {c : Char} (hc : isSpecial c = true) (hparen : c ≠ '(') (hquote : c ≠ '"')
    (t : Text) : readToken (c :: t) = .ok ([c], t) := by
  simp [readToken, hc, hparen, hquote]

/-! ## Parts of a mailbox -/

/-- A part takes such a character as it stands. -/
def IsTaken (allowed : Text) (c : Char) : Prop :=
  isOrdinary c = true ∨ (isSpecial c = true ∧ c ∈ allowed ∧ c ≠ '(' ∧ c ≠ '"')

theorem skipGap_cons {c : Char} (hc : isGap c = false) (t : Text) : skipGap (c :: t) = c :: t :=
  List.dropWhile_cons_of_neg (by simp [hc])

theorem skipGap_head {c : Char} {cs r : Text} (h : skipGap cs = c :: r) : isGap c = false := by
  have := List.head?_dropWhile_not isGap cs
  rw [← skipGap, h] at this
  exact this

theorem suffix_of_skipGap {c : Char} {cs r : Text} (h : skipGap cs = c :: r) : c :: r <:+ cs :=
  h ▸ List.dropWhile_suffix isGap

/-- A special character at which a part goes on is one of those allowed. -/
theorem mem_of_not_stop {allowed : Text} {c : Char} (hspecial : isSpecial c = true)
    (h : ¬(isSpecial c && !allowed.contains c) = true) : c ∈ allowed := by
  rwa [hspecial, Bool.true_and, Bool.not_eq_true, Bool.not_eq_false', List.contains_iff_mem] at h

theorem readPart_nil (allowed text comment : Text) :
    readPart allowed text comment [] = .ok ⟨text, comment, []⟩ := by
  rw [readPart]
  split
  · rfl
  · rename_i h
    cases h

theorem readPart_stop {allowed : Text} {c : Char} (hc : isSpecial c = true) (hnot : c ∉ allowed)
    (text comment t : Text) :
    readPart allowed text comment (c :: t) = .ok ⟨text, comment, c :: t⟩ := by
  rw [readPart]
  split
  · rename_i h
    rw [skipGap_cons (isGap_of_isSpecial hc)] at h
    cases h
  · rename_i h
    rw [skipGap_cons (isGap_of_isSpecial hc)] at h
    cases h
    rw [if_pos (by simp [hc, hnot])]

theorem readPart_special {allowed : Text} {c : Char} (hc : isSpecial c = true) (hin : c ∈ allowed)
    (hparen : c ≠ '(') (hquote : c ≠ '"') (text comment t : Text) :
    readPart allowed text comment (c :: t) = readPart allowed (text ++ [c]) comment t := by
  rw [readPart]
  split
  · rename_i h
    rw [skipGap_cons (isGap_of_isSpecial hc)] at h
    cases h
  · rename_i h
    rw [skipGap_cons (isGap_of_isSpecial hc)] at h
    cases h
    rw [if_neg (by simp [hin]), if_neg hparen, if_neg hquote, if_pos hc]

theorem readPart_run {allowed w t : Text} (hne : w ≠ []) (hw : ∀ c ∈ w, isOrdinary c = true)
    (ht : Stops t) (text comment : Text) :
    readPart allowed text comment (w ++ t) = readPart allowed (text ++ w) comment t := by
  cases w with
  | nil => exact absurd rfl hne
  | cons c w =>
    obtain ⟨hgap, hspecial⟩ := isOrdinary_iff.1 (hw c List.mem_cons_self)
    have hparen : c ≠ '(' := by
      rintro rfl
      exact absurd hspecial (by decide)
    have hquote : c ≠ '"' := by
      rintro rfl
      exact absurd hspecial (by decide)
    rw [List.cons_append, readPart]
    split
    · rename_i h
      rw [skipGap_cons hgap] at h
      cases h
    · rename_i h
      rw [skipGap_cons hgap] at h
      cases h
      rw [if_neg (by simp [hspecial]), if_neg hparen, if_neg hquote, if_neg (by simp [hspecial]),
        ← List.cons_append, takeWhile_run hw ht,
        dropWhile_run (fun d hd => hw d (List.mem_cons_of_mem c hd)) ht]

/-- White space before a part does not count. -/
theorem readPart_skipGap (allowed text comment cs : Text) :
    readPart allowed text comment cs = readPart allowed text comment (skipGap cs) := by
  have hskip : skipGap (skipGap cs) = skipGap cs := by
    cases h : skipGap cs with
    | nil => rfl
    | cons c r => exact skipGap_cons (skipGap_head h) r
  rw [readPart, readPart.eq_def _ _ _ (skipGap cs), hskip]

theorem readPart_comment {allowed : Text} (hin : '(' ∈ allowed) (text comment r : Text) :
    readPart allowed text comment ('(' :: r) =
      match readComment 0 r with
      | .error e => .error e
      | .ok (body, rest) => readPart allowed text (joinComment comment body) rest := by
  rw [readPart]
  split
  · rename_i hs
    cases hs
  · rename_i hs
    cases hs
    rw [if_neg (by simp [hin]), if_pos rfl]
    split
    all_goals simp_all

theorem readPart_quote {allowed : Text} (hin : '"' ∈ allowed) (text comment r : Text) :
    readPart allowed text comment ('"' :: r) =
      match readQuoted r with
      | .error e => .error e
      | .ok (body, rest) => readPart allowed (text ++ quoted body) comment rest := by
  rw [readPart]
  split
  · rename_i hs
    cases hs
  · rename_i hs
    cases hs
    rw [if_neg (by simp [hin]), if_neg (by decide), if_pos rfl]
    split
    all_goals simp_all

theorem readPart_quoted {allowed : Text} (hin : '"' ∈ allowed) (s text comment t : Text) :
    readPart allowed text comment (quoted s ++ t) =
      readPart allowed (text ++ quoted s) comment t := by
  rw [quoted_append, readPart_quote hin, readQuoted_escape]

/-! ## Mailboxes -/

/-- A mailbox does not go on in `t`, neither its local part nor its domain. -/
def Ends (t : Text) : Prop :=
  ∀ c ∈ t.head?, isSpecial c = true ∧ c ≠ '@' ∧ c ∉ localAllowed ∧ c ∉ domainAllowed

theorem ends_nil : Ends [] := fun _ h => (nomatch h)

theorem ends_closing (t : Text) : Ends ('>' :: t) := by
  intro c hc
  cases hc
  decide

theorem readPart_end {allowed rest : Text} (h : ∀ c ∈ rest.head?, isSpecial c = true ∧ c ∉ allowed)
    (text comment : Text) : readPart allowed text comment rest = .ok ⟨text, comment, rest⟩ := by
  cases rest with
  | nil => exact readPart_nil allowed text comment
  | cons c t =>
    obtain ⟨hspecial, hnot⟩ := h c rfl
    exact readPart_stop hspecial hnot text comment t

/-! ## Angle brackets -/

theorem skipRoute_of_head {c : Char} (hgap : isGap c = false) (hat : c ≠ '@') (comment t : Text) :
    skipRoute comment (c :: t) = .ok (comment, c :: t) := by
  unfold skipRoute
  rw [skipGap_cons hgap]
  split
  · rename_i h
    cases h
    exact absurd rfl hat
  · rfl

/-- What stands between angle brackets: a route, which may be missing, and a mailbox. -/
theorem readAngle_eq_ok_iff {name : Option Text} {comment cs rest : Text} {a : Address} :
    readAngle name comment cs = .ok (a, rest) ↔
      ∃ c r text c', skipRoute comment cs = .ok (c, r) ∧ readMailbox c r = .ok ⟨text, c', '>' :: rest⟩ ∧
        a = { entryOf name text c' with mailbox := some (angleMailbox text) } := by
  unfold readAngle
  constructor
  · intro h
    split at h
    · cases h
    · rename_i c r hroute
      split at h
      · cases h
      · rename_i text c' rest' hmail
        cases h
        exact ⟨c, r, text, c', hroute, hmail, rfl⟩
      · cases h
  · rintro ⟨c, r, text, c', hroute, hmail, rfl⟩
    simp only [hroute, hmail]

theorem readAngle_of_readMailbox {cs text rest : Text} (hroute : skipRoute [] cs = .ok ([], cs))
    (hmail : readMailbox [] cs = .ok ⟨text, [], '>' :: rest⟩) (name : Option Text) :
    readAngle name [] cs =
      .ok ({ personal := name, mailbox := some (angleMailbox text) }, rest) :=
  readAngle_eq_ok_iff.2 ⟨_, _, _, _, hroute, hmail, by cases name <;> rfl⟩

/-! ## Bare entries -/

theorem bareEntry?_eq_some_iff {phrase comment : Text} {a : Address} :
    bareEntry? phrase comment = some a ↔ readBare phrase comment = .ok a := by
  unfold bareEntry?
  cases readBare phrase comment <;> simp [Except.toOption]

theorem bareEntry?_eq_none_iff {phrase comment : Text} :
    bareEntry? phrase comment = none ↔ ∃ e, readBare phrase comment = .error e := by
  unfold bareEntry?
  cases readBare phrase comment <;> simp [Except.toOption]

theorem exists_of_bareEntry? {phrase comment : Text} {a : Address}
    (h : bareEntry? phrase comment = some a) :
    ∃ p, readMailbox comment phrase = .ok p ∧ a = entryOf none p.text p.comment := by
  rw [bareEntry?_eq_some_iff] at h
  unfold readBare at h
  split at h
  · rename_i text c rest hmail
    refine ⟨_, hmail, ?_⟩
    split at h
    · exact (Except.ok.inj h).symm
    · exact (Except.ok.inj h).symm
    · exact (Except.ok.inj h).symm
    · cases h
  · cases h

end Address
end Recipients
