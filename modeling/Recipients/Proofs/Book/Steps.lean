import Mathlib.Logic.Relation
import Recipients.Proofs.Book.Groups
import Recipients.Proofs.Classification.Changes
import Recipients.Proofs.Group.Members

/-
  What commands do to a book, step by step. Every command is a series of steps (`steps_perform`): it
  defines or deletes aliases, and it changes groups, alternates and mailing lists by the operations
  that these have. So what every step keeps is kept by lines (`steps_execute`) and by texts
  (`steps_source`), also where a command fails midway. The lists that come into a book this way are
  lists that it has read.
-/

namespace Recipients

open Command (GroupedWord LooseGroups)

namespace Book

/-- The list is one that a command has read. -/
def Reads (b : Book) (l : AddressList) : Prop :=
  ∃ t bad badDomain, b.readMembers t bad badDomain = .ok l

/-- One change that a command makes. -/
inductive Step (b : Book) : Book → Prop
  | define {a : Alias} (h : b.Reads a.addresses) : Step b { b with aliases := b.aliases.define a }
  | delete (name : Text) : Step b { b with aliases := b.aliases.delete name }
  | deleteAll : Step b { b with aliases := b.aliases.deleteAll }
  | groups (change : GroupRegistry.Change) (h : ∀ ns l, change = .addAddresses ns l → b.Reads l) :
      Step b { b with groups := b.groups.apply b.tools.engine change }
  | alternates (change : Alternates.Change) :
      Step b { b with alternates := (b.alternates.perform b.tools.engine change).1 }
  | lists (change : MailingLists.Change) :
      Step b { b with lists := (b.lists.perform b.tools.engine change).1 }

theorem Step.tools_eq {b b' : Book} (h : Step b b') : b'.tools = b.tools := by
  cases h <;> rfl

/-- Any number of changes. -/
abbrev Steps : Book → Book → Prop := Relation.ReflTransGen Step

variable {b : Book}

/-- A property that every step keeps. -/
theorem Steps.induction {P : Book → Prop} (hstep : ∀ b b', Step b b' → P b → P b') {b' : Book}
    (h : Steps b b') (hb : P b) : P b' := by
  induction h with
  | refl => exact hb
  | tail _ hlast ih => exact hstep _ _ hlast ih

theorem Steps.tools_eq {b' : Book} (h : Steps b b') : b'.tools = b.tools :=
  h.induction (fun _ _ hstep hb => hstep.tools_eq.trans hb) rfl

/-! ## Groups -/

theorem steps_nameGroups (b : Book) (ns : GroupNames) (names : List Text) :
    Steps b (b.nameGroups ns names).2 := by
  induction names generalizing b ns with
  | nil => exact .refl
  | cons name names ih => exact .head (.groups (.find name) (by simp)) (ih _ _)

theorem steps_giveUp (b : Book) (ns : GroupNames) (e : CommandError) : Steps b (b.giveUp ns e).1 :=
  .single (.groups (.removeEmpty ns) (by simp))

theorem steps_endGroups (b : Book) (ns : GroupNames) (loose : Option LooseGroups) :
    Steps b (b.endGroups ns loose).1 := by
  cases loose with
  | none => exact .refl
  | some loose => exact (steps_nameGroups b ns loose.groups).trans (steps_giveUp _ _ _)

theorem steps_changeMember (removing : Bool) (b : Book) (ns : GroupNames) (kind : MemberKind)
    (t : Text) : Steps b (changeMember removing b ns kind t).1 := by
  cases removing with
  | false =>
    cases kind with
    | pattern => exact .single (.groups (.addPattern ns t) (by simp))
    | address =>
      rw [changeMember, addMember]
      cases hread : b.readMembers t (.badAddress .group t) (.badDomain .group) with
      | error e => exact .refl
      | ok l =>
        refine .single (.groups (.addAddresses ns l) fun _ _ hsame => ?_)
        cases hsame
        exact ⟨_, _, _, hread⟩
  | true =>
    cases kind with
    | pattern => exact .single (.groups (.removePattern ns t) (by simp))
    | address =>
      rw [changeMember, removeMember]
      cases b.readMembers t (.badAddress .ungroup t) (.badDomain .ungroup) with
      | error e => exact .refl
      | ok l => exact .single (.groups (.removeAddresses ns l) (by simp))

/-- The book that a group command goes on with, or ends with. -/
def reached : Except Book GroupReading → Book
  | .ok s => s.book
  | .error b => b

theorem steps_takeWord (removing : Bool) (s : GroupReading) (w : GroupedWord) :
    Steps s.book (reached (takeWord removing s w)) := by
  have hnamed := steps_nameGroups s.book s.names w.groups
  simp only [takeWord]
  split
  · exact hnamed.tail (.groups (.clear _) (by simp))
  · split
    · exact hnamed
    · exact hnamed.trans (steps_giveUp _ _ (.kindMissing .group))
    · rename_i kind _ _
      have hchanged := hnamed.trans
        (steps_changeMember removing _ (s.book.nameGroups s.names w.groups).1 kind w.word.text)
      split
      · rename_i hdone
        rwa [hdone] at hchanged
      · rename_i hfailed
        rw [hfailed] at hchanged
        exact hchanged.trans (steps_giveUp _ _ (.kindMissing .group))

theorem steps_takeWords (removing : Bool) (words : List GroupedWord) (s : GroupReading) :
    Steps s.book (reached (words.foldlM (takeWord removing) s)) := by
  induction words generalizing s with
  | nil => exact .refl
  | cons w ws ih =>
    have hfirst := steps_takeWord removing s w
    rw [List.foldlM_cons]
    cases hs : takeWord removing s w with
    | error b => rwa [hs] at hfirst
    | ok s' =>
      rw [hs] at hfirst
      exact hfirst.trans (ih s')

theorem steps_finish (loose : Option LooseGroups) (taken : Except Book GroupReading) :
    Steps (reached taken) (finish loose taken) := by
  cases taken with
  | error b => exact .refl
  | ok s => exact steps_endGroups s.book s.names loose

/-! ## Commands -/

theorem steps_eachPattern {step : PatternStep} (hstep : ∀ b t, Steps b (step b t).1)
    (words : List Word) (b : Book) : Steps b (eachPattern step b words).1 := by
  induction words generalizing b with
  | nil => exact .refl
  | cons w ws ih =>
    have hfirst := hstep b w.text
    rw [eachPattern]
    split
    · rename_i hdone
      rw [hdone] at hfirst
      exact hfirst.trans (ih _)
    · rename_i hfailed
      rwa [hfailed] at hfirst

theorem steps_eachGroupedPattern {step : PatternStep} (hstep : ∀ b t, Steps b (step b t).1)
    (loose : Option LooseGroups) (words : List GroupedWord) (ns : GroupNames) (b : Book) :
    Steps b (eachGroupedPattern step loose ns b words).1 := by
  induction words generalizing ns b with
  | nil => exact steps_endGroups b ns loose
  | cons w ws ih =>
    have hfirst := (steps_nameGroups b ns w.groups).trans (hstep _ w.word.text)
    rw [eachGroupedPattern]
    split
    · rename_i hfailed
      rw [hfailed] at hfirst
      exact hfirst.trans (steps_giveUp _ _ _)
    · rename_i b' hdone
      rw [hdone] at hfirst
      have hadded := hfirst.tail (.groups (.addPattern (b.nameGroups ns w.groups).1 w.word.text) (by simp))
      rw [GroupRegistry.apply] at hadded
      split
      · rename_i hbad
        rw [hbad] at hadded
        exact hadded.trans (steps_giveUp _ _ _)
      · rename_i hgood
        rw [hgood] at hadded
        exact hadded.trans (ih _ _)

theorem steps_defineAlias (b : Book) (ns : GroupNames) (name : Word) :
    Steps b (b.defineAlias ns name).1 := by
  simp only [defineAlias]
  split
  · exact steps_giveUp _ _ _
  · rename_i l hread
    have hdefined {a : Alias} (ha : a.addresses = l) : Steps b
        { b with aliases := b.aliases.define a, groups := ns.addAddresses b.groups l } := by
      have hread' : b.Reads l := ⟨_, _, _, hread⟩
      refine .tail (.single (.define (ha ▸ hread'))) (.groups (.addAddresses ns l) fun _ _ hsame => ?_)
      cases hsame
      exact hread'
    refine hdefined ?_
    split <;> rfl

theorem steps_performDefine (b : Book) (words : List Word) : Steps b (b.performDefine words).1 := by
  unfold performDefine
  split
  · exact (steps_nameGroups _ _ _).trans (steps_defineAlias _ _ _)
  · exact steps_endGroups _ _ _
  · exact .refl

theorem steps_performDelete (b : Book) (words : List Word) : Steps b (b.performDelete words).1 := by
  induction words generalizing b with
  | nil => exact .refl
  | cons w ws ih =>
    rw [performDelete]
    split
    · exact .single .deleteAll
    · exact .head (.delete w.text) (ih _)

theorem steps_addAlternate (b : Book) (t : Text) : Steps b (addAlternate b t).1 :=
  .single (.alternates (.add t))

theorem steps_removeAlternate (b : Book) (t : Text) : Steps b (removeAlternate b t).1 :=
  .single (.alternates (.remove t))

theorem steps_perform (b : Book) (c : Command) : Steps b (b.perform c).1 := by
  cases hverb : Verb.ofName? c.first with
  | none =>
    simp only [perform, hverb]
    exact .refl
  | some verb =>
    by_cases hgroup : verb = groupVerb false ∨ verb = groupVerb true
    · rcases hgroup with rfl | rfl <;>
      · rw [perform_group hverb]
        exact (steps_takeWords _ _ ⟨b, [], none⟩).trans (steps_finish _ _)
    · simp only [perform, hverb]
      split
      · exact .refl
      · cases verb with
        | group | ungroup => simp [groupVerb] at hgroup
        | define => exact steps_performDefine b c.words
        | delete => exact steps_performDelete b c.words
        | alternates => exact steps_eachGroupedPattern steps_addAlternate _ _ _ b
        | unalternates => exact steps_eachPattern steps_removeAlternate c.words b
        | lists =>
          exact steps_eachGroupedPattern (fun _ t => .single (.lists (.addList t))) _ _ _ b
        | subscribe =>
          exact steps_eachGroupedPattern (fun _ t => .single (.lists (.subscribe t))) _ _ _ b
        | unlists => exact steps_eachPattern (fun _ t => .single (.lists (.removeList t))) c.words b
        | unsubscribe =>
          exact steps_eachPattern (fun _ t => .single (.lists (.unsubscribe t))) c.words b

/-! ## Lines and texts -/

theorem steps_run (b : Book) (cs : List Command) : Steps b (b.run cs).1 := by
  induction cs generalizing b with
  | nil => exact .refl
  | cons c cs ih =>
    have hfirst := steps_perform b c
    rw [run]
    split
    · rename_i hdone
      rw [hdone] at hfirst
      exact hfirst.trans (ih _)
    · rename_i hcut
      rwa [hcut] at hfirst
    · rename_i hfailed
      rwa [hfailed] at hfirst

theorem steps_execute (b : Book) (line : Text) : Steps b (b.execute line).1 := steps_run b _

theorem steps_runLines (b : Book) (lines : List (Nat × Text)) : Steps b (b.runLines lines).1 := by
  induction lines generalizing b with
  | nil => exact .refl
  | cons line lines ih => exact (steps_execute b line.2).trans (ih _)

theorem steps_source (b : Book) (t : Text) : Steps b (b.source t).1 := steps_runLines b _

end Book
end Recipients
