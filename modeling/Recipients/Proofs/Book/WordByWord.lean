import Recipients.Proofs.Book.Sequence
import Recipients.Proofs.Book.WordLoops
import Recipients.Proofs.Command.Cursor

/-
  Lines that are read while they are run. The commands of a line are a loop as well, and every command
  a loop over its words. All of them come to their end, on any line, and with what `execute` yields,
  which reads a command before it runs it (`execute_wordByWord`).
-/

namespace Recipients

/-! ## The front of a line -/

namespace Command

/-- The command at the front. -/
def front (rest : Text) : Command :=
  ⟨(next .word rest).1, (readWords (next .word rest).2).1⟩

/-- What stands behind it. -/
def behindFront (rest : Text) : Text :=
  if (next .word rest).1 = aliasWord then [] else (readWords (next .word rest).2).2

theorem ofRest_front {rest : Text} (hover : isOver rest = false)
    (hsemi : afterSemicolon? rest = none) :
    ofRest rest = front rest :: (afterSemicolon? (behindFront rest)).elim [] ofRest := by
  rw [front, behindFront]
  split
  · rename_i halias
    rw [halias]
    exact ofRest_alias hover hsemi (Prod.ext halias rfl)
  · rename_i hother
    exact ofRest_cons (hasArgument_of_not_isOver hover hsemi) hother

theorem behindFront_length_lt {rest : Text} (h : hasArgument rest = true) :
    (behindFront rest).length < rest.length := by
  have hnext := next_length_lt .word h
  rw [behindFront]
  split
  · exact Nat.lt_of_le_of_lt (Nat.zero_le _) hnext
  · exact Nat.lt_of_le_of_lt (readWords_length_le _) hnext

theorem afterSemicolon?_eq_none {rest : Text} (h : hasArgument rest = true) :
    afterSemicolon? rest = none := by
  unfold afterSemicolon?
  split
  · cases h
  · rfl

end Command

open Command (GroupedWord LooseGroups Move hasArgument isOver afterSemicolon? readWords grouped aliasWord
  ofRest)

namespace Book

/-! ## What is done with a word -/

def takeDeleted : Text × OnLine → OnLine × Ending
  | (word, s) =>
    if word = everything then ({ s with book.aliases := s.book.aliases.deleteAll }, .cutShort)
    else ({ s with book.aliases := s.book.aliases.delete word }, .complete)

def takePattern (step : PatternStep) : Text × OnLine → OnLine × Ending
  | (word, s) =>
    match step s.book word with
    | (book, none) => ({ s with book }, .complete)
    | (book, some e) => ({ s with book }, .failed (.badPattern e))

def takeGroupedPattern (step : PatternStep) : Text × OnLine → OnLine × Ending
  | (word, s) =>
    match step s.book word with
    | (book, some e) => ({ s with book }, .failed (.badPattern e))
    | (book, none) =>
      match s.names.addPattern book.tools.engine book.groups word with
      | (groups, some e) => ({ s with book := { book with groups } }, .failed (.badPattern e))
      | (groups, none) => ({ s with book := { book with groups } }, .complete)

def takeMember (removing : Bool) : Text × OnLine → OnLine × Ending
  | (word, s) =>
    if removing = true ∧ word = everything then
      ({ s with book.groups := s.names.clear s.book.groups }, .cutShort)
    else match MemberKind.ofOption? word, s.kind with
      | some kind, _ => ({ s with kind := some kind }, .complete)
      | none, none => (s, .failed (.kindMissing (groupVerb removing)))
      | none, some kind =>
        match changeMember removing s.book s.names kind word with
        | (book, none) => ({ s with book }, .complete)
        | (book, some e) => ({ s with book }, .failed e)

/-! ## Commands and lines -/

/-- The name of the alias stands behind the options; its addresses, and a comment, run to the end of
    the line. -/
def takeDefinition (s : OnLine) : Option (OnLine × Option CommandError) :=
  (passOptions s.next).map fun
    | (p, some e) => (p.2, some e)
    | ((name, s), none) =>
      let rest := (Command.next .addresses s.rest).2
      match s.book.defineAlias s.names ⟨name, s.rest⟩ with
      | (book, .failed e) => ({ s with book, rest }, some e)
      | (book, _) => ({ s with book, rest := Command.Move.comment.after rest }, none)

def takeVerb (s : OnLine) : Verb → Option (OnLine × Option CommandError)
  | .define => takeDefinition s
  | .delete => takeEach (some ∘ takeDeleted) s
  | .group => (takeEach (behindOptions (takeMember false)) s).map dropOnError
  | .ungroup => (takeEach (behindOptions (takeMember true)) s).map dropOnError
  | .alternates => (takeEach (behindOptions (takeGroupedPattern addAlternate)) s).map dropOnError
  | .unalternates => takeEach (some ∘ takePattern removeAlternate) s
  | .lists =>
    (takeEach (behindOptions (takeGroupedPattern (listStep MailingLists.addList))) s).map dropOnError
  | .unlists => takeEach (some ∘ takePattern (listStep MailingLists.removeList)) s
  | .subscribe =>
    (takeEach (behindOptions (takeGroupedPattern (listStep MailingLists.subscribe))) s).map dropOnError
  | .unsubscribe => takeEach (some ∘ takePattern (listStep MailingLists.unsubscribe)) s

/-- A command by the word that begins it. -/
def takeCommand : Text × OnLine → Option (OnLine × Option CommandError)
  | (first, s) =>
    match Verb.ofName? first with
    | none => some (s, some (.unknown first))
    | some verb =>
      if hasArgument s.rest then takeVerb s verb
      else some (s, some (if verb = .define then .noAddress else .tooFewArguments verb))

/-- The commands of a line: a semicolon is passed in a turn, or a command with the one behind it. -/
def commandTurn (s : Book × Text) : Option ((Book × Option CommandError) ⊕ (Book × Text)) :=
  if isOver s.2 then some (.inl (s.1, none))
  else match afterSemicolon? s.2 with
    | some more => some (.inr (s.1, more))
    | none =>
      (takeCommand (OnLine.next { book := s.1, rest := s.2 })).map fun
        | (left, some e) => .inl (left.book, some e)
        | (left, none) =>
          match afterSemicolon? left.rest with
          | some more => .inr (left.book, more)
          | none => .inl (left.book, none)

def executeByWord (b : Book) (line : Text) : Option (Book × Option CommandError) :=
  Loop.run commandTurn ((Command.start line).length + 1) (b, Command.start line)

/-! ## The commands -/

theorem takes_deleted (p : Text × OnLine) :
    Takes id (fun s ws => s.book.performDelete ws) p (takeDeleted p) := by
  obtain ⟨word, s⟩ := p
  rw [takeDeleted]
  split
  · rename_i hall
    have hperform : s.book.performDelete (wordsFrom (word, s)) =
        ({ s.book with aliases := s.book.aliases.deleteAll },
          if (readWords s.rest).1.isEmpty then .complete else .cutShort) := if_pos hall
    refine .cutShort ?_
    dsimp only
    rw [hperform]
    cases hmore : hasArgument s.rest with
    | false =>
      rw [readWords_of_none hmore]
      exact Agrees.complete (s := { s with book.aliases := s.book.aliases.deleteAll }) rfl
    | true =>
      rw [Command.readWords_eq hmore]
      exact Agrees.cutShort (s := { s with book.aliases := s.book.aliases.deleteAll }) hmore
  · rename_i hone
    exact .complete (Nat.le_refl _) rfl (if_neg hone)

theorem takes_pattern (step : PatternStep) (p : Text × OnLine) :
    Takes id (fun s ws => eachPattern step s.book ws) p (takePattern step p) := by
  obtain ⟨word, s⟩ := p
  have hperform : eachPattern step s.book (wordsFrom (word, s)) =
      match step s.book word with
      | (b, none) => eachPattern step b (readWords s.rest).1
      | (b, some e) => (b, .failed (.badPattern e)) := rfl
  rw [takePattern]
  generalize step s.book word = changed at hperform ⊢
  obtain ⟨b, e | e⟩ := changed
  · exact .complete (Nat.le_refl _) rfl hperform
  · refine .failed ?_
    dsimp only
    rw [hperform]
    exact .failed { s with book := b } _

theorem takes_groupedPattern (step : PatternStep) (p : Text × OnLine) :
    TakesGrouped (fun loose s ws => eachGroupedPattern step loose s.names s.book ws) p
      (takeGroupedPattern step p) := by
  obtain ⟨word, s⟩ := p
  have hperform (loose : Option LooseGroups) (ws : List GroupedWord) :
      eachGroupedPattern step loose s.names s.book (⟨[], ⟨word, s.rest⟩⟩ :: ws) =
        match step s.book word with
        | (b, some e) => b.giveUp s.names (.badPattern e)
        | (b, none) =>
          match s.names.addPattern b.tools.engine b.groups word with
          | (groups, some e) => giveUp { b with groups } s.names (.badPattern e)
          | (groups, none) => eachGroupedPattern step loose s.names { b with groups } ws := rfl
  rw [takeGroupedPattern]
  generalize step s.book word = changed at hperform ⊢
  obtain ⟨b, e | e⟩ := changed
  · dsimp only at hperform ⊢
    generalize s.names.addPattern b.tools.engine b.groups word = added at hperform ⊢
    obtain ⟨groups, e | e⟩ := added
    · exact .complete rfl hperform
    · exact .failed hperform
  · exact .failed hperform

/-- What `group` and `ungroup` do with their words. -/
def eachMember (removing : Bool) (loose : Option LooseGroups) (s : GroupReading)
    (ws : List GroupedWord) : Book × Ending :=
  if removing then eachRemoved loose s.names s.kind s.book ws
  else eachAdded loose s.names s.kind s.book ws

theorem eachMember_cons (removing : Bool) (loose : Option LooseGroups) (s : GroupReading)
    (w : Word) (ws : List GroupedWord) :
    eachMember removing loose s (⟨[], w⟩ :: ws) =
      if removing = true ∧ w.text = everything then
        ({ s.book with groups := s.names.clear s.book.groups },
          if ws.isEmpty && loose.isNone then .complete else .cutShort)
      else match MemberKind.ofOption? w.text, s.kind with
        | some kind, _ => eachMember removing loose { s with kind := some kind } ws
        | none, none => s.book.giveUp s.names (.kindMissing (groupVerb removing))
        | none, some kind =>
          match changeMember removing s.book s.names kind w.text with
          | (book, none) => eachMember removing loose { s with book } ws
          | (book, some e) => book.giveUp s.names e := by
  obtain ⟨b, names, kind⟩ := s
  cases removing with
  | false =>
    simp only [eachMember, eachAdded, Bool.false_eq_true, false_and, if_false]
    cases MemberKind.ofOption? w.text with
    | some option => rfl
    | none => cases kind <;> rfl
  | true =>
    simp only [eachMember, eachRemoved, true_and, if_true]
    split
    · rfl
    · cases MemberKind.ofOption? w.text with
      | some option => rfl
      | none => cases kind <;> rfl

theorem takes_member (removing : Bool) (p : Text × OnLine) :
    TakesGrouped (eachMember removing) p (takeMember removing p) := by
  obtain ⟨word, s⟩ := p
  have hperform (loose : Option LooseGroups) (ws : List GroupedWord) :=
    eachMember_cons removing loose s.toGroupReading ⟨word, s.rest⟩ ws
  rw [takeMember]
  dsimp only at hperform
  split
  · rename_i hall
    simp only [if_pos hall] at hperform
    exact .cutShort rfl hperform
  · rename_i hone
    simp only [if_neg hone] at hperform
    generalize MemberKind.ofOption? word = option at hperform ⊢
    generalize hkind : s.kind = kind at hperform ⊢
    cases option with
    | some option => exact .complete rfl hperform
    | none =>
      cases kind with
      | none => exact .failed hperform
      | some kind =>
        dsimp only at hperform ⊢
        generalize changeMember removing s.book s.names kind word = changed at hperform ⊢
        obtain ⟨b, e | e⟩ := changed
        · exact .complete rfl hperform
        · exact .failed hperform

theorem defineAlias_ne_cutShort (b : Book) (ns : GroupNames) (name : Word) :
    (b.defineAlias ns name).2 ≠ .cutShort := by
  simp only [defineAlias]
  split
  · exact giveUp_ne_cutShort _
  · exact Ending.noConfusion

/-- The name of an alias is the word behind the options, and nothing is left behind its addresses. -/
theorem exists_takeDefinition {b : Book} {rest : Text} (h : hasArgument rest = true) :
    ∃ a, takeDefinition { book := b, rest } = some a ∧
      Agrees [] (b.performDefine (readWords rest).1) a := by
  obtain ⟨_, hpassed, hpasses⟩ := exists_passOptions (OnLine.next { book := b, rest })
  rw [(wordsFrom_next (s := { book := b, rest }) h).1, performDefine]
  cases hpasses with
  | @loose q e names hgrouped hstate =>
    refine ⟨(q.2, some e), by simp [takeDefinition, hpassed], ?_⟩
    have hbook : q.2.book = _ := congrArg GroupReading.book hstate
    have hperform : b.endGroups [] (some ⟨names, e⟩) = (q.2.book, .failed e) := by
      rw [hbook]
      rfl
    rw [hgrouped, List.nil_append]
    dsimp only
    rw [hperform]
    exact .failed _ _
  | @word q names hgrouped hstate hleft hlength =>
    have hbook : q.2.book = (b.nameGroups [] names).2 := congrArg GroupReading.book hstate
    have hnames : q.2.names = (b.nameGroups [] names).1 := congrArg GroupReading.names hstate
    rw [hgrouped, List.nil_append]
    dsimp only
    rw [← hbook, ← hnames]
    have hends := defineAlias_ne_cutShort q.2.book q.2.names ⟨q.1, q.2.rest⟩
    simp only [takeDefinition, hpassed, Option.map_some]
    generalize q.2.book.defineAlias q.2.names ⟨q.1, q.2.rest⟩ = defined at hends ⊢
    obtain ⟨b', _ | _ | e⟩ := defined
    · exact ⟨_, rfl, Agrees.complete (s := { q.2 with book := b', rest := _ })
        (Command.after_addresses _)⟩
    · exact absurd rfl hends
    · exact ⟨_, rfl, Agrees.failed { q.2 with book := b', rest := _ } e⟩

theorem exists_takeVerb {b : Book} {rest : Text} (h : hasArgument rest = true) (verb : Verb) :
    ∃ a, takeVerb { book := b, rest } verb = some a ∧
      Agrees (if verb = .define then [] else (readWords rest).2)
        (b.performVerb (readWords rest).1 verb) a := by
  have hmember (removing : Bool) := exists_takeGrouped (takeMember removing) (eachMember removing)
    (fun _ _ => by cases removing <;> rfl) (fun _ _ _ _ _ => by cases removing <;> rfl)
    (takes_member removing) (s := { book := b, rest }) h
  have hgrouped (step : PatternStep) := exists_takeGrouped (takeGroupedPattern step)
    (fun loose s ws => eachGroupedPattern step loose s.names s.book ws) (fun _ _ => rfl)
    (fun _ _ _ _ _ => rfl) (takes_groupedPattern step) (s := { book := b, rest }) h
  have hpattern (step : PatternStep) := exists_takeEach (some ∘ takePattern step) id
    (fun s ws => eachPattern step s.book ws) (fun _ => rfl) (fun _ => rfl)
    (fun p => ⟨_, rfl, takes_pattern step p⟩) (s := { book := b, rest }) h
  cases verb with
  | define => exact exists_takeDefinition h
  | delete =>
    exact exists_takeEach (some ∘ takeDeleted) id (fun s ws => s.book.performDelete ws)
      (fun _ => rfl) (fun _ => rfl) (fun p => ⟨_, rfl, takes_deleted p⟩)
      (s := { book := b, rest }) h
  | group => exact hmember false
  | ungroup => exact hmember true
  | alternates => exact hgrouped addAlternate
  | unalternates => exact hpattern removeAlternate
  | lists => exact hgrouped (listStep MailingLists.addList)
  | unlists => exact hpattern (listStep MailingLists.removeList)
  | subscribe => exact hgrouped (listStep MailingLists.subscribe)
  | unsubscribe => exact hpattern (listStep MailingLists.unsubscribe)

theorem ofName?_eq_define_iff (first : Text) : Verb.ofName? first = some .define ↔ first = aliasWord := by
  constructor
  · intro h
    have hname := List.find?_some h
    exact (beq_iff_eq.1 hname).symm
  · rintro rfl
    decide

theorem exists_takeCommand (b : Book) (rest : Text) :
    ∃ a, takeCommand (OnLine.next { book := b, rest }) = some a ∧
      Agrees (Command.behindFront rest) (b.perform (Command.front rest)) a := by
  have hnext : OnLine.next { book := b, rest } =
    ((Command.next .word rest).1, { book := b, rest := (Command.next .word rest).2 }) := rfl
  rw [hnext, Command.front, Command.behindFront, ← if_congr (ofName?_eq_define_iff _) rfl rfl]
  generalize Command.next .word rest = found
  simp only [takeCommand, perform]
  cases Verb.ofName? found.1 with
  | none => exact ⟨_, rfl, .failed { book := b, rest := found.2 } _⟩
  | some verb =>
    cases h : hasArgument found.2 with
    | false =>
      rw [readWords_of_none h]
      exact ⟨_, rfl, .failed { book := b, rest := found.2 } _⟩
    | true =>
      obtain ⟨a, htaken, hagrees⟩ := exists_takeVerb (b := b) h verb
      refine ⟨a, htaken, ?_⟩
      have hwords : (readWords found.2).1.isEmpty = false := by
        rw [Command.readWords_eq h]
        rfl
      simpa [hwords] using hagrees

theorem executeByWord_eq (b : Book) (line : Text) : b.executeByWord line = some (b.execute line) := by
  refine Loop.run_eq (fun _ => True) (fun s : Book × Text => s.2.length) (fun s => s.1.run (ofRest s.2)) ?_
    trivial (Nat.lt_succ_self _)
  rintro ⟨b, rest⟩ -
  cases hover : isOver rest with
  | true =>
    have hnone : ofRest rest = [] := by rw [ofRest, dif_pos hover]
    exact .inl (by simp [commandTurn, hover, hnone, run])
  | false =>
    cases hsemi : afterSemicolon? rest with
    | some more =>
      have hmore : ofRest rest = ofRest more := by
        unfold afterSemicolon? at hsemi
        split at hsemi
        · rw [Command.ofRest_semicolon, Option.some.inj hsemi]
        · cases hsemi
      refine .inr ⟨(b, more), by simp [commandTurn, hover, hsemi], trivial,
        Command.afterSemicolon?_length_lt hsemi, by rw [hmore]⟩
    | none =>
      have hargument := Command.hasArgument_of_not_isOver hover hsemi
      obtain ⟨a, htaken, hagrees⟩ := exists_takeCommand b rest
      have hfront := Command.ofRest_front hover hsemi
      have hlength := Command.behindFront_length_lt hargument
      simp only [commandTurn, hover, hsemi, htaken, hfront, run]
      generalize b.perform (Command.front rest) = performed at hagrees ⊢
      cases hagrees with
      | cutShort hmore => exact .inl (by simp [Command.afterSemicolon?_eq_none hmore])
      | failed => exact .inl (by simp)
      | @complete s hleft =>
        rw [← hleft]
        cases hend : afterSemicolon? s.rest with
        | none => exact .inl (by simp [hend, run])
        | some more =>
          refine .inr ⟨(s.book, more), by simp [hend], trivial, ?_, by simp⟩
          exact (Command.afterSemicolon?_length_lt hend).trans (hleft ▸ hlength)

/-- Running a line makes progress at every place of it. Whatever is read, the position is in the line
    and between two characters; where there is another argument, a token takes a character at least;
    and all loops over commands, words and options end, with what `execute` yields. -/
theorem execute_wordByWord (line : Text) :
    (∀ moves : List Move, ∃ z, Cursor.reach? line moves = some z ∧
      z.At line (moves.foldl Move.after (Command.start line)) ∧
      String.Pos.Raw.IsValid (String.ofList line) ⟨z.pos⟩) ∧
    (∀ z rest, Cursor.At z line rest → hasArgument rest = true → ∀ kind,
      ∃ z' c read, z.move? (.token kind) = some z' ∧ z'.At line (Command.next kind rest).2 ∧
        rest = c :: read ++ (Command.next kind rest).2 ∧
        z'.pos = z.pos + Text.bytes (c :: read)) ∧
    ∀ b : Book, b.executeByWord line = some (b.execute line) := by
  refine ⟨fun moves => ?_, fun z rest hat hargument kind => Cursor.exists_token hat hargument kind,
    fun b => b.executeByWord_eq line⟩
  obtain ⟨z, hreach, hat⟩ := Cursor.exists_reach line moves
  exact ⟨z, hreach, hat, hat.isValid⟩

/-- An empty word, a quote that is not closed and a backslash at the end, behind a blank of three
    bytes. -/
theorem execute_wordByWord_unclosed :
    let line := "\u2003unalias '' \"é\\".toList
    (∃ z z', Cursor.reach? line [.token .word, .token .word] = some z ∧
      z.left? = some ['"', 'é', '\\'] ∧ hasArgument ['"', 'é', '\\'] = true ∧
      z.move? (.token .word) = some z' ∧ z'.pos = z.pos + 4 ∧ z'.left? = some []) ∧
    ∀ b : Book, b.executeByWord line = some (b.execute line) := by
  obtain ⟨hreached, htoken, hexecute⟩ := execute_wordByWord "\u2003unalias '' \"é\\".toList
  obtain ⟨z, hreach, hat, -⟩ := hreached [.token .word, .token .word]
  have hleft : [Move.token .word, Move.token .word].foldl Move.after
      (Command.start "\u2003unalias '' \"é\\".toList) = ['"', 'é', '\\'] := by decide
  rw [hleft] at hat
  obtain ⟨z', c, read, hmove, hat', hrest, hpos⟩ := htoken z _ hat (by decide) .word
  have hnone : (Command.next .word ['"', 'é', '\\']).2 = [] := by decide
  rw [hnone, List.append_nil] at hrest
  rw [hnone] at hat'
  refine ⟨⟨z, z', hreach, hat.left, by decide, hmove, ?_, hat'.left⟩, hexecute⟩
  rw [hpos, ← hrest]
  rfl

end Book
end Recipients
