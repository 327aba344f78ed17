import Recipients.Book.Source
import Recipients.Proofs.Book.GroupWords

/-
  The groups that commands leave behind. A command names its groups before it knows whether
  something will go into them, and then fills them or drops them, however it ends. There is one
  exception: `group` and `ungroup` may end with options that no member follows, and what these
  options name for the first time stays, without members (`LeavesOpen`). So a group without members
  is always one that such a command has left (`isEmpty_executed`).
-/

namespace Recipients

open Command (GroupedWord LooseGroups)
open GroupRegistry (FilledBut)

namespace Book

section

variable {idle : Set Text} {ns : GroupNames} {b : Book}

/-! ## Other commands -/

theorem eachGroupedPattern_filled {step : PatternStep}
    (hstep : ∀ b t, (step b t).1.groups = b.groups) (loose : Option LooseGroups)
    (words : List GroupedWord) (h : FilledBut idle [] b.groups) :
    FilledBut idle [] (eachGroupedPattern step loose ns b words).1.groups := by
  induction words generalizing ns b with
  | nil => exact endGroups_filled h loose
  | cons w ws ih =>
    -- Here every word is a pattern for all the groups, so between two words none is empty.
    have hnamed := nameGroups_filled (h.mono (List.nil_subset ns)) w.groups
    rw [← hstep _ w.word.text] at hnamed
    rw [eachGroupedPattern]
    split
    · rename_i b' e hfailed
      rw [hfailed] at hnamed
      exact hnamed.removeEmpty
    · rename_i b' hdone
      rw [hdone] at hnamed
      split
      · rename_i r e hadded
        have hsame := hnamed.addPattern_subset b'.tools.engine w.word.text (List.Subset.refl _)
        rw [hadded] at hsame
        exact hsame.removeEmpty
      · rename_i r hadded
        have hfilled := hnamed.addPattern (congrArg Prod.snd hadded)
        rw [hadded] at hfilled
        exact ih hfilled

theorem performDefine_filled (h : FilledBut idle [] b.groups) (words : List Word) :
    FilledBut idle [] (b.performDefine words).1.groups := by
  unfold performDefine
  split
  · rename_i w ws _ _
    have hnamed := nameGroups_filled h w.groups
    simp only [defineAlias]
    split
    · exact hnamed.removeEmpty
    · rename_i l hread
      exact hnamed.addAddresses (readMembers_ne_nil hread)
  · exact endGroups_filled h _
  · exact h

theorem performDelete_filled (words : List Word) (h : FilledBut idle [] b.groups) :
    FilledBut idle [] (b.performDelete words).1.groups := by
  induction words generalizing b with
  | nil => exact h
  | cons w ws ih =>
    rw [performDelete]
    split
    · exact h
    · exact ih h

theorem eachPattern_filled {step : PatternStep} (hstep : ∀ b t, (step b t).1.groups = b.groups)
    (words : List Word) (h : FilledBut idle [] b.groups) :
    FilledBut idle [] (eachPattern step b words).1.groups := by
  induction words generalizing b with
  | nil => exact h
  | cons w ws ih =>
    rw [← hstep b w.text] at h
    rw [eachPattern]
    split
    · rename_i b' hdone
      rw [hdone] at h
      exact ih h
    · rename_i b' e hfailed
      rwa [hfailed] at h

/-! ## Group commands -/

/-- A group command comes to the options at its end, which no member follows, while the book has no
    group with the name `n`, and the options name it. -/
def LeavesOpen (b : Book) (c : Command) (n : Text) : Prop :=
  ∃ removing s, Verb.ofName? c.first = some (groupVerb removing) ∧
    (Command.grouped [] c.words).2 = none ∧
    c.upToLastMember.foldlM (takeWord removing) ⟨b, [], none⟩ = .ok s ∧
    s.book.groups.get? n = none ∧ ∃ w ∈ c.lastOptions, n ∈ w.groups

theorem perform_group {c : Command} {removing : Bool}
    (hverb : Verb.ofName? c.first = some (groupVerb removing)) :
    (b.perform c).1 = finish (Command.grouped [] c.words).2
      ((Command.grouped [] c.words).1.foldlM (takeWord removing) ⟨b, [], none⟩) := by
  have hverb' : (b.performVerb c.words (groupVerb removing)).1 =
      finish (Command.grouped [] c.words).2
        ((Command.grouped [] c.words).1.foldlM (takeWord removing) ⟨b, [], none⟩) := by
    cases removing with
    | false => exact eachAdded_fst _ [] none b _
    | true => exact eachRemoved_fst _ [] none b _
  simp only [perform, hverb]
  split
  · rename_i hnone
    rw [List.isEmpty_iff.1 hnone]
    rfl
  · exact hverb'

/-- A group command whose members are all taken goes on to name the groups of its last options. -/
theorem perform_group_groups {c : Command} {removing : Bool} {s : GroupReading}
    (hverb : Verb.ofName? c.first = some (groupVerb removing))
    (hloose : (Command.grouped [] c.words).2 = none)
    (hs : c.upToLastMember.foldlM (takeWord removing) ⟨b, [], none⟩ = .ok s) :
    (b.perform c).1.groups =
      (c.lastOptions.flatMap GroupedWord.groups).foldl GroupRegistry.found s.book.groups := by
  obtain ⟨s', hs', hgroups⟩ := takeWords_lastOptions removing c s
  rw [perform_group hverb, takeWords_grouped, hs, hloose]
  show (finish none (c.lastOptions.foldlM (takeWord removing) s)).groups = _
  rw [hs']
  exact hgroups

theorem LeavesOpen.get? {c : Command} {n : Text} (h : b.LeavesOpen c n) :
    (b.perform c).1.groups.get? n = some { name := n } := by
  obtain ⟨removing, s, hverb, hloose, hs, hnone, w, hw, hn⟩ := h
  have hmem : n ∈ c.lastOptions.flatMap GroupedWord.groups := List.mem_flatMap.2 ⟨w, hw, hn⟩
  rw [perform_group_groups hverb hloose hs, GroupRegistry.get?_foldl_found, if_pos hmem,
    GroupRegistry.get_of_get?_none hnone]

theorem perform_group_filled {c : Command} {removing : Bool}
    (hverb : Verb.ofName? c.first = some (groupVerb removing)) (h : FilledBut idle [] b.groups)
    (hopen : ∀ n, b.LeavesOpen c n → n ∈ idle) : FilledBut idle [] (b.perform c).1.groups := by
  have hwords := takeWords_filled removing (Command.grouped [] c.words).1 ⟨b, [], none⟩ h
  cases hloose : (Command.grouped [] c.words).2 with
  | some loose =>
    rw [perform_group hverb, hloose]
    generalize (Command.grouped [] c.words).1.foldlM (takeWord removing) ⟨b, [], none⟩ = taken
      at hwords ⊢
    cases taken with
    | error b' => exact hwords
    | ok s => exact endGroups_some hwords loose
  | none =>
    cases hs : c.upToLastMember.foldlM (takeWord removing) ⟨b, [], none⟩ with
    | error b' =>
      rw [perform_group hverb]
      rw [takeWords_grouped, hs] at hwords ⊢
      exact hwords
    | ok s =>
      rw [perform_group_groups hverb hloose hs]
      refine (upToLastMember_filled h hs).foldl_found fun n hn hnone => .inl ?_
      obtain ⟨w, hw, hmem⟩ := List.mem_flatMap.1 hn
      exact hopen n ⟨removing, s, hverb, hloose, hs, hnone, w, hw, hmem⟩

theorem perform_filled {c : Command} (h : FilledBut idle [] b.groups)
    (hopen : ∀ n, b.LeavesOpen c n → n ∈ idle) : FilledBut idle [] (b.perform c).1.groups := by
  cases hverb : Verb.ofName? c.first with
  | none =>
    simp only [perform, hverb]
    exact h
  | some verb =>
    by_cases hgroup : verb = groupVerb false ∨ verb = groupVerb true
    · rcases hgroup with rfl | rfl <;> exact perform_group_filled hverb h hopen
    · simp only [perform, hverb]
      split
      · exact h
      · cases verb with
        | group | ungroup => simp [groupVerb] at hgroup
        | define => exact performDefine_filled h c.words
        | delete => exact performDelete_filled c.words h
        | alternates => exact eachGroupedPattern_filled (fun _ _ => rfl) _ _ h
        | lists => exact eachGroupedPattern_filled (fun _ _ => rfl) _ _ h
        | subscribe => exact eachGroupedPattern_filled (fun _ _ => rfl) _ _ h
        | unalternates => exact eachPattern_filled (fun _ _ => rfl) c.words h
        | unlists => exact eachPattern_filled (fun _ _ => rfl) c.words h
        | unsubscribe => exact eachPattern_filled (fun _ _ => rfl) c.words h

/-! ## Lines -/

/-- The commands that are performed of some, each with the book that it finds. -/
def trace (b : Book) : List Command → List (Book × Command)
  | [] => []
  | c :: cs =>
    (b, c) :: match b.perform c with
      | (b', .complete) => b'.trace cs
      | _ => []

/-- The commands that are performed on lines, each with the book that it finds. -/
def performed (b : Book) : List Text → List (Book × Command)
  | [] => []
  | line :: lines => b.trace (Command.ofLine line) ++ (b.execute line).1.performed lines

def executeAll (b : Book) (lines : List Text) : Book :=
  lines.foldl (fun b line => (b.execute line).1) b

theorem run_filled {cs : List Command} (h : FilledBut idle [] b.groups)
    (hopen : ∀ p ∈ b.trace cs, ∀ n, p.1.LeavesOpen p.2 n → n ∈ idle) :
    FilledBut idle [] (b.run cs).1.groups := by
  induction cs generalizing b with
  | nil => exact h
  | cons c cs ih =>
    have hfirst := perform_filled h (hopen (b, c) List.mem_cons_self)
    rw [trace] at hopen
    rw [run]
    split
    · rename_i b' hdone
      rw [hdone] at hfirst hopen
      exact ih hfirst fun p hp => hopen p (List.mem_cons_of_mem _ hp)
    · rename_i b' hcut
      rwa [hcut] at hfirst
    · rename_i b' e hfailed
      rwa [hfailed] at hfirst

theorem executeAll_filled {lines : List Text} (h : FilledBut idle [] b.groups)
    (hopen : ∀ p ∈ b.performed lines, ∀ n, p.1.LeavesOpen p.2 n → n ∈ idle) :
    FilledBut idle [] (b.executeAll lines).groups := by
  induction lines generalizing b with
  | nil => exact h
  | cons line lines ih =>
    rw [performed] at hopen
    refine ih (run_filled h fun p hp => ?_) fun p hp => ?_
    · exact hopen p (List.mem_append_left _ hp)
    · exact hopen p (List.mem_append_right _ hp)

end

/-- After lines on a new book, with any tools, every group has members, except those that a group
    command has left open; and each group that a command leaves open has none after it. -/
theorem isEmpty_executed {tools : Tools} {settings : Settings} {environment : Environment}
    {directory : Directory} {b : Book} (hb : empty tools settings environment directory = .ok b)
    (lines : List Text) :
    (∀ g ∈ (b.executeAll lines).groups, g.isEmpty = true →
      ∃ p ∈ b.performed lines, p.1.LeavesOpen p.2 g.name) ∧
    ∀ p ∈ b.performed lines, ∀ n, p.1.LeavesOpen p.2 n →
      ∃ g ∈ (p.1.perform p.2).1.groups, g.name = n ∧ g.isEmpty = true := by
  constructor
  · intro g hg hempty
    have hnew : FilledBut {n | ∃ p ∈ b.performed lines, p.1.LeavesOpen p.2 n} [] b.groups := by
      obtain ⟨nameMask, rfl⟩ := eq_of_empty hb
      exact .empty _ _
    have hend := executeAll_filled hnew fun p hp n hopen => ⟨p, hp, hopen⟩
    exact (hend.filled g hg hempty).resolve_right List.not_mem_nil
  · intro p _ n hopen
    exact ⟨_, GroupRegistry.mem_of_get? hopen.get?, rfl, rfl⟩

theorem isSome_nameMask :
    (Pattern.compile .standard (Settings.nameMask {}) false).isSome = true := by
  decide +kernel

/-- A new book with no settings. -/
def plain : Book where
  tools := .standard
  settings := {}
  environment := {}
  directory := []
  nameMask := (Pattern.compile .standard (Settings.nameMask {}) false).get isSome_nameMask

theorem empty_plain_with (converter : Domain.Converter) :
    empty ⟨.standard, converter⟩ {} {} [] = .ok { plain with tools := ⟨.standard, converter⟩ } := by
  have hmask : Pattern.compile .standard (Settings.nameMask {}) false = some plain.nameMask :=
    (Option.some_get isSome_nameMask).symm
  rw [empty, hmask]
  rfl

theorem empty_plain : empty .standard {} {} [] = .ok plain := empty_plain_with .standard

/-- One group gets a member and stays, another is named by the last option only. -/
theorem isEmpty_executed_two :
    (plain.executeAll ["group -group g -addr a@x.org".toList,
        "ungroup -group h -rx".toList]).groups.map (fun g => (g.name, g.isEmpty)) =
      [("g".toList, false), ("h".toList, true)] ∧
    empty .standard {} {} [] = .ok plain ∧
    (∀ g ∈ (plain.executeAll ["group -group g -addr a@x.org".toList,
        "ungroup -group h -rx".toList]).groups, g.isEmpty = true →
      ∃ p ∈ plain.performed ["group -group g -addr a@x.org".toList, "ungroup -group h -rx".toList],
        p.1.LeavesOpen p.2 g.name) ∧
    ∀ p ∈ plain.performed ["group -group g -addr a@x.org".toList, "ungroup -group h -rx".toList],
      ∀ n, p.1.LeavesOpen p.2 n →
        ∃ g ∈ (p.1.perform p.2).1.groups, g.name = n ∧ g.isEmpty = true :=
  ⟨by decide +kernel, empty_plain, isEmpty_executed empty_plain _⟩

/-- A command that succeeds and ends with an option: the group that it has named stays, and nothing
    is in it. -/
theorem executed_last_option :
    ¬ ∀ (tools : Tools) (settings : Settings) (environment : Environment) (directory : Directory)
      (b : Book) (lines : List Text), empty tools settings environment directory = .ok b →
      ∀ g ∈ (b.executeAll lines).groups, g.isEmpty = false := by
  intro h
  have hgroups := h _ _ _ _ _ ["group -group g -rx".toList] empty_plain
  revert hgroups
  decide +kernel

end Book
end Recipients
