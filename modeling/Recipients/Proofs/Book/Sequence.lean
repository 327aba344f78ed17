import Recipients.Proofs.Book.Groups
import Recipients.Proofs.Command.Plain

/-
  Commands one after the other. What a command does depends on the texts of its words, unless it
  defines an alias (`perform_of_texts`); so a plain line before a semicolon does what it does alone.
  What follows the semicolon is run then, except in one case: `unalias` and `ungroup` stop at the word
  for everything, and the words that stand after it keep the rest of the line from being run
  (`LeavesUnread`).
-/

namespace Recipients

open Command (GroupedWord LooseGroups)

/-! ## Words without what follows them -/

def Word.bare (w : Word) : Word := ⟨w.text, []⟩

def Command.GroupedWord.bare (w : GroupedWord) : GroupedWord := ⟨w.groups, w.word.bare⟩

theorem Command.grouped_bare (named : List Text) (words : List Word) :
    grouped named (words.map Word.bare) =
      ((grouped named words).1.map GroupedWord.bare, (grouped named words).2) := by
  fun_induction grouped named words with
  | case1 => rfl
  | case2 named w h => exact if_pos h
  | case3 named w h => exact if_neg h
  | case4 named w n h => exact if_pos h
  | case5 named w n h w' ws ih => exact (if_pos h).trans ih
  | case6 named w n ws h more ih =>
    have hstep : grouped named (w.bare :: n.bare :: ws.map Word.bare) =
        (⟨named, w.bare⟩ :: (grouped [] (n.bare :: ws.map Word.bare)).1,
          (grouped [] (n.bare :: ws.map Word.bare)).2) := by
      cases ws <;> exact if_neg h
    rw [List.map_cons] at ih
    rw [List.map_cons, List.map_cons, hstep, ih]
    rfl

namespace Book

section

variable (loose : Option LooseGroups) (ns : GroupNames) (kind : Option MemberKind) (b : Book)

theorem performDelete_bare (words : List Word) :
    b.performDelete (words.map Word.bare) = b.performDelete words := by
  induction words generalizing b with
  | nil => rfl
  | cons w ws ih => simp only [List.map_cons, performDelete, Word.bare, List.isEmpty_map, ih]

theorem eachPattern_bare (step : PatternStep) (words : List Word) :
    eachPattern step b (words.map Word.bare) = eachPattern step b words := by
  induction words generalizing b with
  | nil => rfl
  | cons w ws ih => simp only [List.map_cons, eachPattern, Word.bare, ih]

theorem eachGroupedPattern_bare (step : PatternStep) (words : List GroupedWord) :
    eachGroupedPattern step loose ns b (words.map GroupedWord.bare) =
      eachGroupedPattern step loose ns b words := by
  induction words generalizing ns b with
  | nil => rfl
  | cons w ws ih =>
    simp only [List.map_cons, eachGroupedPattern, GroupedWord.bare, Word.bare, ih]

theorem eachAdded_bare (words : List GroupedWord) :
    eachAdded loose ns kind b (words.map GroupedWord.bare) = eachAdded loose ns kind b words := by
  induction words generalizing ns kind b with
  | nil => rfl
  | cons w ws ih => simp only [List.map_cons, eachAdded, GroupedWord.bare, Word.bare, ih]

theorem eachRemoved_bare (words : List GroupedWord) :
    eachRemoved loose ns kind b (words.map GroupedWord.bare) = eachRemoved loose ns kind b words := by
  induction words generalizing ns kind b with
  | nil => rfl
  | cons w ws ih =>
    simp only [List.map_cons, eachRemoved, GroupedWord.bare, Word.bare, List.isEmpty_map, ih]

end

theorem performVerb_bare (b : Book) (words : List Word) {verb : Verb} (h : verb ≠ .define) :
    b.performVerb (words.map Word.bare) verb = b.performVerb words verb := by
  cases verb with
  | define => exact absurd rfl h
  | delete => exact performDelete_bare b words
  | unalternates | unlists | unsubscribe => exact eachPattern_bare b _ words
  | group => simp only [performVerb, Command.grouped_bare, eachAdded_bare]
  | ungroup => simp only [performVerb, Command.grouped_bare, eachRemoved_bare]
  | alternates | lists | subscribe =>
    simp only [performVerb, Command.grouped_bare, eachGroupedPattern_bare]

/-- Two commands with the same texts do the same, unless they define an alias. -/
theorem perform_of_texts (b : Book) {c c' : Command} (h : c.texts = c'.texts)
    (hfirst : c.first ≠ Command.aliasWord) : b.perform c = b.perform c' := by
  obtain ⟨hname, htexts⟩ := List.cons.inj h
  have hbare : c.words.map Word.bare = c'.words.map Word.bare := by
    have hcut := congrArg (List.map fun t => (⟨t, []⟩ : Word)) htexts
    rwa [List.map_map, List.map_map] at hcut
  have hempty : c.words.isEmpty = c'.words.isEmpty := by
    rw [← List.isEmpty_map (f := Word.bare), hbare, List.isEmpty_map]
  unfold perform
  rw [← hname, ← hempty]
  cases hverb : Verb.ofName? c.first with
  | none => rfl
  | some verb =>
    have hdefine : verb ≠ .define := by
      rintro rfl
      have hfound := List.find?_some hverb
      exact hfirst (beq_iff_eq.1 hfound).symm
    dsimp only
    rw [← performVerb_bare b c.words hdefine, hbare, performVerb_bare b c'.words hdefine]

/-! ## Words that are left -/

/-- `unalias` has words behind the word for everything; or `ungroup` comes to that word and has
    words left, or groups that no word follows. -/
def LeavesUnread (b : Book) (c : Command) : Prop :=
  (Verb.ofName? c.first = some .delete ∧ ∃ w ∈ c.words.dropLast, w.text = everything) ∨
  (Verb.ofName? c.first = some .ungroup ∧ ∃ before w after s,
    (Command.grouped [] c.words).1 = before ++ w :: after ∧ w.word.text = everything ∧
    before.foldlM (takeWord true) ⟨b, [], none⟩ = .ok s ∧
    (after ≠ [] ∨ (Command.grouped [] c.words).2 ≠ none))

theorem performDelete_cutShort (b : Book) (words : List Word) :
    (b.performDelete words).2 = .cutShort ↔ ∃ w ∈ words.dropLast, w.text = everything := by
  induction words generalizing b with
  | nil => simp [performDelete]
  | cons w ws ih =>
    rw [performDelete]
    split
    · rename_i hw
      cases ws with
      | nil => simp
      | cons v vs => simp [hw]
    · rename_i hw
      rw [ih]
      cases ws with
      | nil => simp
      | cons v vs => simp [hw]

section

variable {loose : Option LooseGroups} {ns : GroupNames} {kind : Option MemberKind} {b : Book}

theorem giveUp_ne_cutShort (e : CommandError) : (b.giveUp ns e).2 ≠ .cutShort := by
  simp [giveUp]

theorem endGroups_ne_cutShort : (b.endGroups ns loose).2 ≠ .cutShort := by
  cases loose with
  | none => simp [endGroups]
  | some loose => exact giveUp_ne_cutShort _

theorem eachPattern_ne_cutShort (step : PatternStep) (words : List Word) :
    (eachPattern step b words).2 ≠ .cutShort := by
  induction words generalizing b with
  | nil => simp [eachPattern]
  | cons w ws ih =>
    rw [eachPattern]
    split
    · exact ih
    · simp

theorem eachGroupedPattern_ne_cutShort (step : PatternStep) (words : List GroupedWord) :
    (eachGroupedPattern step loose ns b words).2 ≠ .cutShort := by
  induction words generalizing ns b with
  | nil => exact endGroups_ne_cutShort
  | cons w ws ih =>
    rw [eachGroupedPattern]
    split
    · exact giveUp_ne_cutShort _
    · split
      · exact giveUp_ne_cutShort _
      · exact ih

theorem eachAdded_ne_cutShort (words : List GroupedWord) :
    (eachAdded loose ns kind b words).2 ≠ .cutShort := by
  induction words generalizing ns kind b with
  | nil => exact endGroups_ne_cutShort
  | cons w ws ih =>
    unfold eachAdded
    cases MemberKind.ofOption? w.word.text with
    | some kind' => exact ih
    | none =>
      cases kind with
      | none => exact giveUp_ne_cutShort _
      | some kind =>
        dsimp only
        split
        · exact ih
        · exact giveUp_ne_cutShort _

theorem performDefine_ne_cutShort (words : List Word) : (b.performDefine words).2 ≠ .cutShort := by
  unfold performDefine
  split
  · simp only [defineAlias]
    split
    · exact giveUp_ne_cutShort _
    · simp
  · exact endGroups_ne_cutShort
  · simp

/-- One word of `ungroup`: it ends the command, or the next word is taken up. -/
theorem eachRemoved_cons (w : GroupedWord) (ws : List GroupedWord) :
    (eachRemoved loose ns kind b (w :: ws)).2 = .cutShort ↔
      (w.word.text = everything ∧ (ws ≠ [] ∨ loose ≠ none)) ∨
        ∃ s, takeWord true ⟨b, ns, kind⟩ w = .ok s ∧
          (eachRemoved loose s.names s.kind s.book ws).2 = .cutShort := by
  simp only [eachRemoved, takeWord, changeMember, true_and]
  by_cases hall : w.word.text = everything
  · simp only [hall, if_true]
    cases ws <;> cases loose <;> simp
  · simp only [hall, if_false, false_and, false_or]
    cases MemberKind.ofOption? w.word.text with
    | some kind' => simp
    | none =>
      cases kind with
      | none => simp [giveUp]
      | some kind =>
        dsimp only
        generalize removeMember _ _ kind w.word.text = removed
        obtain ⟨b', e | e⟩ := removed
        · simp
        · simp [giveUp]

theorem eachRemoved_cutShort (words : List GroupedWord) :
    (eachRemoved loose ns kind b words).2 = .cutShort ↔
      ∃ before w after s, words = before ++ w :: after ∧ w.word.text = everything ∧
        before.foldlM (takeWord true) ⟨b, ns, kind⟩ = .ok s ∧ (after ≠ [] ∨ loose ≠ none) := by
  induction words generalizing ns kind b with
  | nil => simpa [eachRemoved] using endGroups_ne_cutShort
  | cons w ws ih =>
    rw [eachRemoved_cons]
    constructor
    · rintro (⟨hall, hleft⟩ | ⟨s, hs, hcut⟩)
      · exact ⟨[], w, ws, _, rfl, hall, rfl, hleft⟩
      · obtain ⟨before, v, after, s', rfl, hall, hbefore, hleft⟩ := ih.1 hcut
        refine ⟨w :: before, v, after, s', rfl, hall, ?_, hleft⟩
        rw [List.foldlM_cons, hs]
        exact hbefore
    · rintro ⟨_ | ⟨v, before⟩, u, after, s', hwords, hall, hbefore, hleft⟩
      · obtain ⟨rfl, rfl⟩ := List.cons.inj hwords
        exact .inl ⟨hall, hleft⟩
      · obtain ⟨rfl, rfl⟩ := List.cons.inj hwords
        rw [List.foldlM_cons] at hbefore
        cases hs : takeWord true ⟨b, ns, kind⟩ w with
        | error b' =>
          rw [hs] at hbefore
          cases hbefore
        | ok s =>
          rw [hs] at hbefore
          exact .inr ⟨s, rfl, ih.2 ⟨before, u, after, s', rfl, hall, hbefore, hleft⟩⟩

end

theorem perform_cutShort (b : Book) (c : Command) :
    (b.perform c).2 = .cutShort ↔ b.LeavesUnread c := by
  unfold perform LeavesUnread
  cases Verb.ofName? c.first with
  | none => simp
  | some verb =>
    dsimp only
    split
    · rename_i hnone
      rw [List.isEmpty_iff.1 hnone]
      simp [Command.grouped]
    · cases verb with
      | delete => simpa [performVerb] using performDelete_cutShort b c.words
      | ungroup => simpa [performVerb] using eachRemoved_cutShort _
      | define => simpa [performVerb] using performDefine_ne_cutShort c.words
      | group => simpa [performVerb] using eachAdded_ne_cutShort _
      | alternates | lists | subscribe => simpa [performVerb] using eachGroupedPattern_ne_cutShort _ _
      | unalternates | unlists | unsubscribe =>
        simpa [performVerb] using eachPattern_ne_cutShort _ c.words

/-! ## Lines -/

/-- Executes a line and, unless that fails, another one. -/
def executeBoth (b : Book) (s t : Text) : Book × Option CommandError :=
  match b.execute s with
  | (b', none) => b'.execute t
  | (b', some e) => (b', some e)

section

variable {s : Text}

/-- A plain line is one command or none, and stays so with a semicolon behind it. -/
theorem ofLine_plain (hs : Command.IsPlain s)
    (hfirst : (Text.words s).head? ≠ some Command.aliasWord) :
    (Command.ofLine s = [] ∧ ∀ t, Command.ofLine (s ++ "; ".toList ++ t) = Command.ofLine t) ∨
      ∃ c, Command.ofLine s = [c] ∧ ∀ t, ∃ c', c'.texts = c.texts ∧ c'.first ≠ Command.aliasWord ∧
        Command.ofLine (s ++ "; ".toList ++ t) = c' :: Command.ofLine t := by
  have hafter (t : Text) : Command.afterSemicolon? ("; ".toList ++ t) = some (Command.start t) := rfl
  obtain ⟨cs, htexts, hline⟩ := Command.ofRest_plain hs hfirst (r := []) rfl
  have hlonger (t : Text) := Command.ofRest_plain hs hfirst (r := "; ".toList ++ t) rfl
  rw [List.append_nil] at hline
  simp only [hafter, ← List.append_assoc] at hlonger
  by_cases hnone : Text.words s = []
  · rw [if_pos hnone, List.map_eq_nil_iff] at htexts
    subst htexts
    refine .inl ⟨hline, fun t => ?_⟩
    obtain ⟨cs, htexts, hline⟩ := hlonger t
    rw [if_pos hnone, List.map_eq_nil_iff] at htexts
    subst htexts
    exact hline
  · rw [if_neg hnone, List.map_eq_singleton_iff] at htexts
    obtain ⟨c, rfl, hc⟩ := htexts
    refine .inr ⟨c, hline, fun t => ?_⟩
    obtain ⟨cs, htexts, hline⟩ := hlonger t
    rw [if_neg hnone, List.map_eq_singleton_iff] at htexts
    obtain ⟨c', rfl, hc'⟩ := htexts
    refine ⟨c', hc'.trans hc.symm, ?_, hline⟩
    rw [← hc'] at hfirst
    exact fun h => hfirst (congrArg some h)

/-- What a plain line does with another line behind it. -/
theorem execute_append (b : Book) (hs : Command.IsPlain s)
    (hfirst : (Text.words s).head? ≠ some Command.aliasWord) (t : Text) :
    ((∃ c ∈ Command.ofLine s, b.LeavesUnread c) ∧ (b.execute s).2 = none ∧
        b.execute (s ++ "; ".toList ++ t) = b.execute s) ∨
      (¬ (∃ c ∈ Command.ofLine s, b.LeavesUnread c) ∧
        b.execute (s ++ "; ".toList ++ t) = b.executeBoth s t) := by
  unfold executeBoth
  rcases ofLine_plain hs hfirst with ⟨hline, hlonger⟩ | ⟨c, hline, hlonger⟩
  · refine .inr ⟨by simp [hline], ?_⟩
    rw [execute, hlonger, execute, hline]
    rfl
  · obtain ⟨c', htexts, hc', hlonger⟩ := hlonger t
    rw [hline]
    simp only [List.mem_singleton, exists_eq_left, ← perform_cutShort]
    simp only [execute, hline, hlonger, run, perform_of_texts b htexts hc']
    obtain ⟨b', _ | _ | e⟩ := b.perform c
    · exact .inr ⟨by simp, rfl⟩
    · exact .inl ⟨rfl, rfl, rfl⟩
    · exact .inr ⟨by simp, rfl⟩

/-- A plain line and another one behind a semicolon do what they do one after the other, whatever
    the other one is, exactly if the first one has no words left when it ends. -/
theorem execute_sequence (b : Book) (hs : Command.IsPlain s)
    (hfirst : (Text.words s).head? ≠ some Command.aliasWord) :
    (∀ t, b.execute (s ++ "; ".toList ++ t) = b.executeBoth s t) ↔
      ∀ c ∈ Command.ofLine s, ¬ b.LeavesUnread c := by
  constructor
  · intro h c hc hleft
    -- The other line is a word that is no command, which fails wherever it is run.
    obtain ⟨-, hnone, hskipped⟩ | ⟨hnot, -⟩ := b.execute_append hs hfirst "?".toList
    · have hline : Command.ofLine "?".toList = [⟨"?".toList, []⟩] := by decide +kernel
      have hfails (b' : Book) : (b'.execute "?".toList).2 = some (.unknown "?".toList) := by
        rw [execute, hline]
        rfl
      have hboth : (b.executeBoth s "?".toList).2 = some (.unknown "?".toList) := by
        unfold executeBoth
        generalize b.execute s = first at hnone ⊢
        obtain ⟨b', e | e⟩ := first
        · exact hfails b'
        · cases hnone
      rw [← h, hskipped, hnone] at hboth
      cases hboth
    · exact hnot ⟨c, hc, hleft⟩
  · intro h t
    obtain ⟨⟨c, hc, hleft⟩, -⟩ | ⟨-, hsame⟩ := b.execute_append hs hfirst t
    · exact absurd hleft (h c hc)
    · exact hsame

end

/-- The word for everything stands last, and the line behind is run. -/
theorem execute_sequence_delete :
    Command.IsPlain "unalias x *".toList ∧
      (Text.words "unalias x *".toList).head? ≠ some Command.aliasWord ∧
      ∀ t, plain.execute ("unalias x *".toList ++ "; ".toList ++ t) =
        plain.executeBoth "unalias x *".toList t := by
  have hs : Command.IsPlain "unalias x *".toList := by decide
  have hfirst : (Text.words "unalias x *".toList).head? ≠ some Command.aliasWord := by decide
  refine ⟨hs, hfirst, (plain.execute_sequence hs hfirst).2 fun c hc => ?_⟩
  have hline : Command.ofLine "unalias x *".toList =
      [⟨"unalias".toList, [⟨"x".toList, "*".toList⟩, ⟨"*".toList, []⟩]⟩] := by decide +kernel
  rw [hline, List.mem_singleton] at hc
  subst hc
  rw [← perform_cutShort]
  decide +kernel

/-- The word for everything ends the command, and another word stands behind it. -/
theorem execute_sequence_skipped :
    ¬ ∀ (b : Book) (s t : Text), Command.IsPlain s →
      (Text.words s).head? ≠ some Command.aliasWord →
      b.execute (s ++ "; ".toList ++ t) = b.executeBoth s t := by
  intro h
  have hskipped := h plain "unalias * x".toList "alias b b@x.org".toList (by decide) (by decide)
  have hnames := congrArg (fun r => r.1.aliases.names) hskipped
  revert hnames
  decide +kernel

end Book
end Recipients
