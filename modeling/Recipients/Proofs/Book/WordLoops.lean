import Recipients.Proofs.Book.FailedDefinition
import Recipients.Proofs.Book.GroupWords
import Recipients.Proofs.Command.Quoting
import Recipients.Proofs.Loop

/-
  Commands that take their words from the line one by one. A command takes a word, does what the word
  says and looks whether there is another one; in front of a word there may be options, which are
  passed in the same way. Both are loops with a turn for every character that is left of the line, and
  one more. They come to their end within these turns, and where they end is where a command ends that
  has read all its words before (`exists_passOptions`, `exists_takeEach`).
-/

namespace Recipients

open Command (GroupedWord LooseGroups hasArgument readWords grouped isGroupOption)

namespace Book

/-! ## Loops -/

namespace GroupReading

def nameGroups (s : GroupReading) (names : List Text) : GroupReading :=
  let named := s.book.nameGroups s.names names
  { s with book := named.2, names := named.1 }

def dropEmpty (s : GroupReading) : GroupReading :=
  { s with book.groups := s.names.removeEmpty s.book.groups }

end GroupReading

/-- A command on the way along its line. -/
structure OnLine extends GroupReading where
  rest : Text

namespace OnLine

/-- The next word, and the command behind it. -/
def next (s : OnLine) : Text × OnLine :=
  let found := Command.next .word s.rest
  (found.1, { s with rest := found.2 })

def nameGroup (s : OnLine) (name : Text) : OnLine :=
  { s with toGroupReading := s.toGroupReading.nameGroups [name] }

def dropEmpty (s : OnLine) : OnLine := { s with toGroupReading := s.toGroupReading.dropEmpty }

theorem nameGroup_rest (s : OnLine) (name : Text) : (s.nameGroup name).rest = s.rest := rfl

end OnLine

/-- The options in front of a word: one with the name behind it is passed in a turn. -/
def optionTurn (p : Text × OnLine) :
    Option (((Text × OnLine) × Option CommandError) ⊕ (Text × OnLine)) :=
  if isGroupOption ⟨p.1, p.2.rest⟩ then
    if hasArgument p.2.rest then
      let name := p.2.next
      let s := name.2.nameGroup name.1
      if hasArgument s.rest then some (.inr s.next)
      else some (.inl ((name.1, s.dropEmpty), some .outOfArguments))
    else some (.inl ((p.1, p.2.dropEmpty), some .groupNameMissing))
  else some (.inl (p, none))

/-- The first word behind the options. -/
def passOptions (p : Text × OnLine) : Option ((Text × OnLine) × Option CommandError) :=
  Loop.run optionTurn (p.2.rest.length + 1) p

/-- The words of a command: one is taken in a turn. -/
def wordTurn (take : Text × OnLine → Option (OnLine × Ending)) (s : OnLine) :
    Option ((OnLine × Option CommandError) ⊕ OnLine) :=
  (take s.next).map fun
    | (s, .complete) => if hasArgument s.rest then .inr s else .inl (s, none)
    | (s, .cutShort) => .inl (s, none)
    | (s, .failed e) => .inl (s, some e)

def takeEach (take : Text × OnLine → Option (OnLine × Ending)) (s : OnLine) :
    Option (OnLine × Option CommandError) :=
  Loop.run (wordTurn take) (s.rest.length + 1) s

/-- Takes the word behind the options. -/
def behindOptions (take : Text × OnLine → OnLine × Ending) (p : Text × OnLine) :
    Option (OnLine × Ending) :=
  (passOptions p).map fun
    | (p, none) => take p
    | (p, some e) => (p.2, .failed e)

/-- A command that fails drops the groups that are empty. -/
def dropOnError : OnLine × Option CommandError → OnLine × Option CommandError
  | (s, none) => (s, none)
  | (s, some e) => (s.dropEmpty, some e)

/-! ## The words that are left -/

theorem readWords_of_none {rest : Text} (h : hasArgument rest = false) :
    readWords rest = ([], rest) := by
  rw [readWords, dif_neg (by simp [h])]

/-- A word and those behind it. -/
def wordsFrom (p : Text × OnLine) : List Word := ⟨p.1, p.2.rest⟩ :: (readWords p.2.rest).1

theorem wordsFrom_next {s : OnLine} (h : hasArgument s.rest = true) :
    (readWords s.rest).1 = wordsFrom s.next ∧ (readWords s.rest).2 = (readWords s.next.2.rest).2 := by
  refine ⟨Command.readWords_eq h, ?_⟩
  rw [readWords, dif_pos h]
  rfl

theorem next_length_lt {s : OnLine} (h : hasArgument s.rest = true) :
    s.next.2.rest.length < s.rest.length := Command.next_length_lt .word h

/-! ## Options -/

theorem grouped_word (named : List Text) {w : Word} (hw : isGroupOption w = false) (ws : List Word) :
    grouped named (w :: ws) = (⟨named, w⟩ :: (grouped [] ws).1, (grouped [] ws).2) := by
  cases ws with
  | nil => simp [grouped, hw]
  | cons n ws => cases ws <;> simp [grouped, hw]

theorem GroupReading.nameGroups_append (s : GroupReading) (names names' : List Text) :
    (s.nameGroups names).nameGroups names' = s.nameGroups (names ++ names') := by
  unfold GroupReading.nameGroups Book.nameGroups GroupNames.addAll
  rw [List.foldl_append]

/-- What passing the options in front of a word comes to, and what the words tell of it: the word
    behind them, or groups that no word follows. -/
inductive Passes (p : Text × OnLine) : (Text × OnLine) × Option CommandError → Prop
  | word {q : Text × OnLine} (names : List Text)
      (hgrouped : ∀ named, grouped named (wordsFrom p) =
        (⟨named ++ names, ⟨q.1, q.2.rest⟩⟩ :: (grouped [] (readWords q.2.rest).1).1,
          (grouped [] (readWords q.2.rest).1).2))
      (hstate : q.2.toGroupReading = p.2.toGroupReading.nameGroups names)
      (hleft : (readWords q.2.rest).2 = (readWords p.2.rest).2)
      (hlength : q.2.rest.length ≤ p.2.rest.length) : Passes p (q, none)
  | loose {q : Text × OnLine} {e : CommandError} (names : List Text)
      (hgrouped : ∀ named, grouped named (wordsFrom p) = ([], some ⟨named ++ names, e⟩))
      (hstate : q.2.toGroupReading = (p.2.toGroupReading.nameGroups names).dropEmpty) :
      Passes p (q, some e)

theorem exists_passOptions (p : Text × OnLine) : ∃ a, passOptions p = some a ∧ Passes p a := by
  refine Loop.exists_run (fun _ => True) (fun p => p.2.rest.length) Passes ?_ trivial (Nat.lt_succ_self _)
  rintro ⟨word, s⟩ -
  cases hword : isGroupOption ⟨word, s.rest⟩ with
  | false =>
    refine .inl ⟨((word, s), none), if_neg (by simp [hword]), .word [] (fun named => ?_) rfl rfl
      (Nat.le_refl _)⟩
    rw [List.append_nil]
    exact grouped_word named hword _
  | true =>
    cases hname : hasArgument s.rest with
    | false =>
      refine .inl ⟨((word, s.dropEmpty), some .groupNameMissing), ?_, .loose [] (fun named => ?_) rfl⟩
      · simp [optionTurn, hword, hname]
      · rw [wordsFrom, readWords_of_none hname, List.append_nil]
        exact if_pos hword
    | true =>
      have hfirst := wordsFrom_next hname
      cases hnext : hasArgument s.next.2.rest with
      | false =>
        refine .inl ⟨((s.next.1, (s.next.2.nameGroup s.next.1).dropEmpty), some .outOfArguments), ?_,
          .loose [s.next.1] (fun named => ?_) rfl⟩
        · simp [optionTurn, hword, hname, OnLine.nameGroup_rest, hnext]
        · rw [wordsFrom, hfirst.1, wordsFrom, readWords_of_none hnext]
          exact if_pos hword
      | true =>
        -- The option is passed with its name; the word behind it is looked at in the next turn.
        have hsecond := wordsFrom_next (s := s.next.2.nameGroup s.next.1) hnext
        have hgrouped (named : List Text) : grouped named (wordsFrom (word, s)) =
            grouped (named ++ [s.next.1]) (wordsFrom (s.next.2.nameGroup s.next.1).next) := by
          rw [wordsFrom, hfirst.1, wordsFrom]
          show grouped named (_ :: _ :: (readWords (s.next.2.nameGroup s.next.1).rest).1) = _
          rw [hsecond.1]
          exact if_pos hword
        refine .inr ⟨(s.next.2.nameGroup s.next.1).next, ?_, trivial,
          (next_length_lt hnext).trans (next_length_lt hname), ?_⟩
        · simp [optionTurn, hword, hname, OnLine.nameGroup_rest, hnext]
        · rintro a (⟨names, hrest, hstate, hleft, hlength⟩ | ⟨names, hrest, hstate⟩)
          · refine .word (s.next.1 :: names) (fun named => ?_) ?_ ?_ ?_
            · rw [hgrouped, hrest, List.append_assoc, List.singleton_append]
            · exact hstate.trans (GroupReading.nameGroups_append _ _ _)
            · exact hleft.trans (hsecond.2.symm.trans hfirst.2.symm)
            · exact hlength.trans ((next_length_lt hnext).trans (next_length_lt hname)).le
          · refine .loose (s.next.1 :: names) (fun named => ?_) ?_
            · rw [hgrouped, hrest, List.append_assoc, List.singleton_append]
            · exact hstate.trans (congrArg _ (GroupReading.nameGroups_append _ _ _))

/-! ## Words -/

/-- A command that takes its words from the line ends as it does where it has read them; `left` is
    what stands behind the words. -/
inductive Agrees (left : Text) : Book × Ending → OnLine × Option CommandError → Prop
  | complete {s : OnLine} (h : s.rest = left) : Agrees left (s.book, .complete) (s, none)
  | cutShort {s : OnLine} (h : hasArgument s.rest = true) : Agrees left (s.book, .cutShort) (s, none)
  | failed (s : OnLine) (e : CommandError) : Agrees left (s.book, .failed e) (s, some e)

/-- What is done with one word, as `perform` does it with all of them; `finish` is what is done at the
    end of the command. -/
inductive Takes (finish : OnLine × Option CommandError → OnLine × Option CommandError)
    (perform : GroupReading → List Word → Book × Ending) (p : Text × OnLine) : OnLine × Ending → Prop
  | complete {s : OnLine} (hlength : s.rest.length ≤ p.2.rest.length)
      (hleft : (readWords s.rest).2 = (readWords p.2.rest).2)
      (hperform : perform p.2.toGroupReading (wordsFrom p) =
        perform s.toGroupReading (readWords s.rest).1) : Takes finish perform p (s, .complete)
  | cutShort {s : OnLine} (h : Agrees (readWords p.2.rest).2
      (perform p.2.toGroupReading (wordsFrom p)) (finish (s, none))) :
      Takes finish perform p (s, .cutShort)
  | failed {s : OnLine} {e : CommandError} (h : Agrees (readWords p.2.rest).2
      (perform p.2.toGroupReading (wordsFrom p)) (finish (s, some e))) :
      Takes finish perform p (s, .failed e)

theorem exists_takeEach (take : Text × OnLine → Option (OnLine × Ending))
    (finish : OnLine × Option CommandError → OnLine × Option CommandError)
    (perform : GroupReading → List Word → Book × Ending)
    (hnil : ∀ s, perform s [] = (s.book, .complete))
    (hfinish : ∀ s, finish (s, none) = (s, none))
    (htake : ∀ p, ∃ a, take p = some a ∧ Takes finish perform p a) {s : OnLine}
    (hs : hasArgument s.rest = true) :
    ∃ a, takeEach take s = some a ∧
      Agrees (readWords s.rest).2 (perform s.toGroupReading (readWords s.rest).1) (finish a) := by
  refine Loop.exists_run (fun s : OnLine => hasArgument s.rest = true) (fun s => s.rest.length)
    (fun s a => Agrees (readWords s.rest).2 (perform s.toGroupReading (readWords s.rest).1) (finish a))
    ?_ hs (Nat.lt_succ_self _)
  intro s hs
  obtain ⟨⟨s', ending⟩, htaken, hends⟩ := htake s.next
  obtain ⟨hwords, hleft⟩ := wordsFrom_next hs
  rw [hwords, hleft]
  cases hends with
  | cutShort h => exact .inl ⟨(s', none), by simp [wordTurn, htaken], h⟩
  | @failed _ e h => exact .inl ⟨(s', some e), by simp [wordTurn, htaken], h⟩
  | complete hlength hleft' hperform =>
    have hperform : perform s.toGroupReading (wordsFrom s.next) = _ := hperform
    rw [hperform, ← hleft']
    cases hmore : hasArgument s'.rest with
    | true =>
      refine .inr ⟨s', by simp [wordTurn, htaken, hmore], hmore, ?_, fun a ha => ha⟩
      exact Nat.lt_of_le_of_lt hlength (next_length_lt hs)
    | false =>
      refine .inl ⟨(s', none), by simp [wordTurn, htaken, hmore], ?_⟩
      rw [readWords_of_none hmore, hnil, hfinish]
      exact .complete rfl

/-! ## Words behind options -/

theorem grouped_eq_nil_iff (named : List Text) (ws : List Word) :
    (grouped named ws).1 = [] ∧ (grouped named ws).2 = none ↔ ws = [] := by
  fun_induction grouped named ws with
  | case1 | case2 | case3 | case4 | case6 => simp
  | case5 named w n h w' ws ih => simp [ih]

theorem removeEmpty_of_forall {ns : GroupNames} {r : GroupRegistry}
    (h : ∀ n ∈ ns, (r.get? n).any Group.isEmpty = false) : ns.removeEmpty r = r := by
  induction ns with
  | nil => rfl
  | cons n ns ih =>
    obtain ⟨hn, hns⟩ := List.forall_mem_cons.1 h
    have hsame : r.removeIfEmpty n = r := if_neg (by simp [hn])
    show GroupNames.removeEmpty ns (r.removeIfEmpty n) = r
    rw [hsame, ih hns]

theorem removeEmpty_removeEmpty (ns : GroupNames) (r : GroupRegistry) :
    ns.removeEmpty (ns.removeEmpty r) = ns.removeEmpty r := by
  refine removeEmpty_of_forall fun n hn => ?_
  rw [GroupNames.get?_removeEmpty, if_pos hn]
  cases r.get? n with
  | none => rfl
  | some g => cases hempty : g.isEmpty <;> simp [Option.filter, hempty]

theorem GroupReading.dropEmpty_dropEmpty (s : GroupReading) : s.dropEmpty.dropEmpty = s.dropEmpty := by
  unfold GroupReading.dropEmpty
  simp only [removeEmpty_removeEmpty]

/-- What is done with one word behind options, as `perform` does it with all words and their groups. -/
inductive TakesGrouped (perform : Option LooseGroups → GroupReading → List GroupedWord → Book × Ending)
    (p : Text × OnLine) : OnLine × Ending → Prop
  | complete {s : OnLine} (hrest : s.rest = p.2.rest) (h : ∀ loose ws,
      perform loose p.2.toGroupReading (⟨[], ⟨p.1, p.2.rest⟩⟩ :: ws) =
        perform loose s.toGroupReading ws) : TakesGrouped perform p (s, .complete)
  | cutShort {s : OnLine} (hrest : s.rest = p.2.rest) (h : ∀ loose ws,
      perform loose p.2.toGroupReading (⟨[], ⟨p.1, p.2.rest⟩⟩ :: ws) =
        (s.book, if ws.isEmpty && loose.isNone then .complete else .cutShort)) :
      TakesGrouped perform p (s, .cutShort)
  | failed {s : OnLine} {e : CommandError} (h : ∀ loose ws,
      perform loose p.2.toGroupReading (⟨[], ⟨p.1, p.2.rest⟩⟩ :: ws) =
        (s.dropEmpty.book, .failed e)) : TakesGrouped perform p (s, .failed e)

theorem exists_behindOptions {take : Text × OnLine → OnLine × Ending}
    {perform : Option LooseGroups → GroupReading → List GroupedWord → Book × Ending}
    (hloose : ∀ loose s, perform loose s [] = s.book.endGroups s.names loose)
    (hnames : ∀ loose s names w ws, perform loose s (⟨names, w⟩ :: ws) =
      perform loose (s.nameGroups names) (⟨[], w⟩ :: ws))
    (htake : ∀ p, TakesGrouped perform p (take p)) (p : Text × OnLine) :
    ∃ a, behindOptions take p = some a ∧
      Takes dropOnError (fun s ws => perform (grouped [] ws).2 s (grouped [] ws).1) p a := by
  obtain ⟨_, hpassed, hpasses⟩ := exists_passOptions p
  cases hpasses with
  | @loose q e names hgrouped hstate =>
    refine ⟨(q.2, .failed e), by simp [behindOptions, hpassed], .failed ?_⟩
    have hbook : q.2.dropEmpty.book = (p.2.toGroupReading.nameGroups names).dropEmpty.book := by
      show q.2.toGroupReading.dropEmpty.book = _
      rw [hstate, GroupReading.dropEmpty_dropEmpty]
    have hperform : perform (some ⟨names, e⟩) p.2.toGroupReading [] = (q.2.dropEmpty.book, .failed e) := by
      rw [hloose, hbook]
      rfl
    simp only [hgrouped, List.nil_append, hperform]
    exact .failed _ e
  | @word q names hgrouped hstate hleft hlength =>
    have hperform : perform (grouped [] (wordsFrom p)).2 p.2.toGroupReading (grouped [] (wordsFrom p)).1 =
        perform (grouped [] (readWords q.2.rest).1).2 q.2.toGroupReading
          (⟨[], ⟨q.1, q.2.rest⟩⟩ :: (grouped [] (readWords q.2.rest).1).1) := by
      rw [hgrouped, hnames, hstate]
      rfl
    refine ⟨take q, by simp [behindOptions, hpassed], ?_⟩
    have htaken := htake q
    generalize take q = taken at htaken ⊢
    cases htaken with
    | complete hrest h =>
      refine .complete (hrest ▸ hlength) (by rw [hrest, hleft]) ?_
      rw [hperform, h, hrest]
    | failed h =>
      refine .failed ?_
      rw [hperform, h]
      exact .failed _ _
    | cutShort hrest h =>
      refine .cutShort ?_
      rw [hperform, h, ← hleft]
      -- The words that are left are not looked at, so it only matters whether there are any.
      cases hmore : hasArgument q.2.rest with
      | false =>
        rw [readWords_of_none hmore]
        exact .complete hrest
      | true =>
        have hsome : ¬ ((grouped [] (readWords q.2.rest).1).1.isEmpty &&
            (grouped [] (readWords q.2.rest).1).2.isNone) = true := by
          rw [Bool.and_eq_true, List.isEmpty_iff, Option.isNone_iff_eq_none, grouped_eq_nil_iff,
            Command.readWords_eq hmore]
          exact List.cons_ne_nil _ _
        rw [if_neg hsome]
        exact .cutShort (hrest ▸ hmore)

theorem exists_takeGrouped (take : Text × OnLine → OnLine × Ending)
    (perform : Option LooseGroups → GroupReading → List GroupedWord → Book × Ending)
    (hloose : ∀ loose s, perform loose s [] = s.book.endGroups s.names loose)
    (hnames : ∀ loose s names w ws, perform loose s (⟨names, w⟩ :: ws) =
      perform loose (s.nameGroups names) (⟨[], w⟩ :: ws))
    (htake : ∀ p, TakesGrouped perform p (take p)) {s : OnLine} (hs : hasArgument s.rest = true) :
    ∃ a, (takeEach (behindOptions take) s).map dropOnError = some a ∧
      Agrees (readWords s.rest).2 (perform (grouped [] (readWords s.rest).1).2 s.toGroupReading
        (grouped [] (readWords s.rest).1).1) a := by
  obtain ⟨a, htaken, hagrees⟩ := exists_takeEach (behindOptions take) dropOnError
    (fun s ws => perform (grouped [] ws).2 s (grouped [] ws).1)
    (fun s => hloose none s) (fun _ => rfl) (exists_behindOptions hloose hnames htake) hs
  exact ⟨dropOnError a, by rw [htaken]; rfl, hagrees⟩

end Book
end Recipients
