import Mathlib.Data.List.DropRight
import Recipients.Book.Commands
import Recipients.Proofs.AddressList.Parsed
import Recipients.Proofs.Group.Filled

/-
  Group commands word by word. `group` and `ungroup` read their words in one way and differ in what
  they do with a member (`takeWord`, `eachAdded_fst`, `eachRemoved_fst`). Each member fills or drops
  all the groups named so far, and so does a failure; options only name groups. So up to its last
  member a command leaves no group behind without members (`upToLastMember_filled`), and the options
  after that name theirs and do nothing else (`takeWords_options`).
-/

namespace Recipients

open Command (GroupedWord LooseGroups)
open GroupRegistry (FilledBut)

theorem GroupNames.addAll_snd (ns : GroupNames) (r : GroupRegistry) (names : List Text) :
    (ns.addAll r names).2 = names.foldl GroupRegistry.found r := by
  induction names generalizing ns r with
  | nil => rfl
  | cons name names ih => exact ih _ _

namespace Command

/-- Whether a word says what the words after it are. -/
def GroupedWord.isOption (w : GroupedWord) : Bool := (MemberKind.ofOption? w.word.text).isSome

/-- The words of a command up to its last one that is no option. -/
def upToLastMember (c : Command) : List GroupedWord :=
  (grouped [] c.words).1.rdropWhile GroupedWord.isOption

/-- The options at the end of a command. -/
def lastOptions (c : Command) : List GroupedWord :=
  (grouped [] c.words).1.rtakeWhile GroupedWord.isOption

end Command

namespace Book

/-! ## Between two words of a group command -/

/-- A group command between two words: the groups named so far, and what the words are. -/
structure GroupReading where
  book : Book
  names : GroupNames := []
  kind : Option MemberKind := none

def groupVerb (removing : Bool) : Verb := if removing then .ungroup else .group

/-- Adds or removes one member. -/
def changeMember : Bool → Book → GroupNames → MemberKind → Text → Book × Option CommandError
  | false => addMember
  | true => removeMember

/-- Takes up one word of a group command. An error is the book as the command ends there. -/
def takeWord (removing : Bool) (s : GroupReading) (w : GroupedWord) : Except Book GroupReading :=
  let named := s.book.nameGroups s.names w.groups
  if removing = true ∧ w.word.text = everything then
    .error { named.2 with groups := named.1.clear named.2.groups }
  else match MemberKind.ofOption? w.word.text, s.kind with
    | some kind, _ => .ok ⟨named.2, named.1, some kind⟩
    | none, none => .error { named.2 with groups := named.1.removeEmpty named.2.groups }
    | none, some kind =>
      match changeMember removing named.2 named.1 kind w.word.text with
      | (b, none) => .ok ⟨b, named.1, some kind⟩
      | (b, some _) => .error { b with groups := named.1.removeEmpty b.groups }

/-- The book at the end of a group command. -/
def finish (loose : Option LooseGroups) : Except Book GroupReading → Book
  | .ok s => (s.book.endGroups s.names loose).1
  | .error b => b

section

variable (loose : Option LooseGroups) (ns : GroupNames) (kind : Option MemberKind) (b : Book)

theorem eachAdded_fst (words : List GroupedWord) : (eachAdded loose ns kind b words).1 =
    finish loose (words.foldlM (takeWord false) ⟨b, ns, kind⟩) := by
  induction words generalizing ns kind b with
  | nil => rfl
  | cons w ws ih =>
    simp only [eachAdded, List.foldlM_cons, takeWord, changeMember, Bool.false_eq_true, false_and,
      if_false]
    cases MemberKind.ofOption? w.word.text with
    | some kind' => exact ih _ _ _
    | none =>
      cases kind with
      | none => rfl
      | some kind =>
        dsimp only
        generalize addMember _ _ kind w.word.text = added
        obtain ⟨b', e | e⟩ := added
        · exact ih _ _ _
        · rfl

theorem eachRemoved_fst (words : List GroupedWord) : (eachRemoved loose ns kind b words).1 =
    finish loose (words.foldlM (takeWord true) ⟨b, ns, kind⟩) := by
  induction words generalizing ns kind b with
  | nil => rfl
  | cons w ws ih =>
    simp only [eachRemoved, List.foldlM_cons, takeWord, changeMember, true_and]
    split
    · rfl
    · cases MemberKind.ofOption? w.word.text with
      | some kind' => exact ih _ _ _
      | none =>
        cases kind with
        | none => rfl
        | some kind =>
          dsimp only
          generalize removeMember _ _ kind w.word.text = removed
          obtain ⟨b', e | e⟩ := removed
          · exact ih _ _ _
          · rfl

end

/-! ## Filling and dropping groups -/

section

variable {idle : Set Text} {ns : GroupNames} {b : Book}

theorem readMembers_eq_ok_iff {t : Text} {bad : CommandError} {badDomain : Text → CommandError}
    {l : AddressList} : b.readMembers t bad badDomain = .ok l ↔
      ∃ read n, AddressList.parseFreeOnto [] t = (read, .ok (n + 1)) ∧
        read.toWire b.domainPolicy = (l, []) := by
  constructor
  · intro h
    unfold readMembers at h
    split at h
    · rename_i read n hread
      split at h
      · rename_i wire hwire
        obtain rfl := Except.ok.inj h
        exact ⟨read, n, hread, hwire⟩
      · cases h
    · cases h
  · rintro ⟨read, n, hread, hwire⟩
    simp only [readMembers, hread, hwire]

theorem readMembers_ne_nil {t : Text} {bad : CommandError} {badDomain : Text → CommandError}
    {l : AddressList} (h : b.readMembers t bad badDomain = .ok l) : l ≠ [] := by
  obtain ⟨read, n, hread, hwire⟩ := readMembers_eq_ok_iff.1 h
  have hlength : l.length = read.length := by
    obtain rfl := congrArg Prod.fst hwire
    exact List.length_map _
  have hcount := AddressList.countRecipients_of_parseFreeOnto hread
  rintro rfl
  obtain rfl : read = [] := List.length_eq_zero_iff.1 hlength.symm
  simp [AddressList.countRecipients] at hcount

theorem nameGroups_filled (h : FilledBut idle ns b.groups) (names : List Text) :
    FilledBut idle (b.nameGroups ns names).1 (b.nameGroups ns names).2.groups := h.addAll names

theorem endGroups_some (h : FilledBut idle ns b.groups) (loose : LooseGroups) :
    FilledBut idle [] (b.endGroups ns (some loose)).1.groups :=
  (nameGroups_filled h loose.groups).removeEmpty

theorem endGroups_filled (h : FilledBut idle [] b.groups) (loose : Option LooseGroups) :
    FilledBut idle [] (b.endGroups ns loose).1.groups := by
  cases loose with
  | none => exact h
  | some loose => exact endGroups_some (h.mono (List.nil_subset ns)) loose

/-- A member that is added or removed leaves none of the groups empty. -/
theorem changeMember_filled (h : FilledBut idle ns b.groups) (removing : Bool) (kind : MemberKind)
    (t : Text) :
    match changeMember removing b ns kind t with
    | (b', none) => FilledBut idle [] b'.groups
    | (b', some _) => FilledBut idle ns b'.groups := by
  cases removing with
  | false =>
    cases kind with
    | pattern =>
      have hfailed := h.addPattern_subset b.tools.engine t (List.Subset.refl ns)
      rw [changeMember, addMember]
      cases hadded : (ns.addPattern b.tools.engine b.groups t).2 with
      | none => exact h.addPattern hadded
      | some e => exact hfailed
    | address =>
      rw [changeMember, addMember]
      cases hread : b.readMembers t (.badAddress .group t) (.badDomain .group) with
      | error e => exact h
      | ok l => exact h.addAddresses (readMembers_ne_nil hread)
  | true =>
    cases kind with
    | pattern =>
      have hremoved := h.removePattern t
      rw [changeMember, removeMember]
      generalize ns.removePattern b.groups t = removed at hremoved ⊢
      obtain ⟨r, found⟩ := removed
      cases found with
      | true => exact hremoved
      | false => exact hremoved.mono (List.nil_subset ns)
    | address =>
      rw [changeMember, removeMember]
      cases b.readMembers t (.badAddress .ungroup t) (.badDomain .ungroup) with
      | error e => exact h
      | ok l => exact h.removeAddresses l

/-- Every word leaves the groups named so far to be filled or dropped by the next; a member fills
    or drops them. -/
theorem takeWord_ok {removing : Bool} {s s' : GroupReading} {w : GroupedWord}
    (h : FilledBut idle s.names s.book.groups) (hs : takeWord removing s w = .ok s') :
    FilledBut idle (if w.isOption then s'.names else []) s'.book.groups := by
  have hnamed := nameGroups_filled h w.groups
  simp only [takeWord] at hs
  unfold GroupedWord.isOption
  split at hs
  · cases hs
  · split at hs
    · rename_i hoption
      cases hs
      rw [hoption]
      exact hnamed
    · cases hs
    · rename_i kind hoption _
      rw [hoption]
      have hchanged := changeMember_filled hnamed removing kind w.word.text
      split at hs
      · rename_i hdone
        rw [hdone] at hchanged
        cases hs
        exact hchanged
      · cases hs

theorem takeWord_error {removing : Bool} {s : GroupReading} {w : GroupedWord} {b : Book}
    (h : FilledBut idle s.names s.book.groups) (hs : takeWord removing s w = .error b) :
    FilledBut idle [] b.groups := by
  have hnamed := nameGroups_filled h w.groups
  simp only [takeWord] at hs
  split at hs
  · cases hs
    exact hnamed.clear
  · split at hs
    · cases hs
    · cases hs
      exact hnamed.removeEmpty
    · rename_i kind _ _
      have hchanged := changeMember_filled hnamed removing kind w.word.text
      split at hs
      · cases hs
      · rename_i hfailed
        rw [hfailed] at hchanged
        cases hs
        exact hchanged.removeEmpty

/-- However many words are taken up. -/
theorem takeWords_filled (removing : Bool) (words : List GroupedWord) (s : GroupReading)
    (h : FilledBut idle s.names s.book.groups) :
    match words.foldlM (takeWord removing) s with
    | .ok s' => FilledBut idle s'.names s'.book.groups
    | .error b => FilledBut idle [] b.groups := by
  induction words generalizing s with
  | nil => exact h
  | cons w ws ih =>
    rw [List.foldlM_cons]
    cases hs : takeWord removing s w with
    | error b => exact takeWord_error h hs
    | ok s' =>
      refine ih _ ((takeWord_ok h hs).mono ?_)
      split
      · exact List.Subset.refl _
      · exact List.nil_subset _

/-! ## The options at the end -/

theorem isOption_ne_everything {w : GroupedWord} (h : w.isOption = true) :
    w.word.text ≠ everything := by
  intro hall
  rw [GroupedWord.isOption, hall] at h
  exact absurd h (by decide)

/-- Options name their groups and do nothing else. -/
theorem takeWords_options (removing : Bool) (words : List GroupedWord) (s : GroupReading)
    (hwords : ∀ w ∈ words, w.isOption = true) :
    ∃ s', words.foldlM (takeWord removing) s = .ok s' ∧
      s'.book.groups =
        (words.flatMap GroupedWord.groups).foldl GroupRegistry.found s.book.groups := by
  induction words generalizing s with
  | nil => exact ⟨s, rfl, rfl⟩
  | cons w ws ih =>
    obtain ⟨hw, hws⟩ := List.forall_mem_cons.1 hwords
    obtain ⟨kind, hkind⟩ := Option.isSome_iff_exists.1 hw
    have hfirst : takeWord removing s w = .ok ⟨(s.book.nameGroups s.names w.groups).2,
        (s.book.nameGroups s.names w.groups).1, some kind⟩ := by
      simp only [takeWord, hkind, isOption_ne_everything hw, and_false, if_false]
    obtain ⟨s', hs', hgroups⟩ := ih _ hws
    refine ⟨s', ?_, ?_⟩
    · rw [List.foldlM_cons, hfirst]
      exact hs'
    · rw [hgroups, List.flatMap_cons, List.foldl_append]
      exact congrArg (List.foldl GroupRegistry.found · _)
        (GroupNames.addAll_snd s.names s.book.groups w.groups)

theorem takeWords_lastOptions (removing : Bool) (c : Command) (s : GroupReading) :
    ∃ s', c.lastOptions.foldlM (takeWord removing) s = .ok s' ∧
      s'.book.groups =
        (c.lastOptions.flatMap GroupedWord.groups).foldl GroupRegistry.found s.book.groups :=
  takeWords_options removing c.lastOptions s fun _ => List.mem_rtakeWhile_imp

theorem takeWords_grouped (removing : Bool) (c : Command) (s : GroupReading) :
    (Command.grouped [] c.words).1.foldlM (takeWord removing) s =
      c.upToLastMember.foldlM (takeWord removing) s >>=
        c.lastOptions.foldlM (takeWord removing) := by
  rw [Command.upToLastMember, Command.lastOptions, ← List.foldlM_append,
    List.rdropWhile_append_rtakeWhile]

/-- After its last member, a command has filled or dropped all the groups that it has named. -/
theorem upToLastMember_filled {removing : Bool} {c : Command} {s : GroupReading}
    (h : FilledBut idle [] b.groups)
    (hs : c.upToLastMember.foldlM (takeWord removing) ⟨b, [], none⟩ = .ok s) :
    FilledBut idle [] s.book.groups := by
  rcases List.eq_nil_or_concat' c.upToLastMember with hnil | ⟨ws, w, hlast⟩
  · rw [hnil] at hs
    cases hs
    exact h
  · -- The last word is a member: whatever the words before it have left empty, it fills or drops.
    have hmember : w.isOption = false := by
      have hne : c.upToLastMember ≠ [] := hlast ▸ List.concat_ne_nil w ws
      have hnot : ¬(c.upToLastMember.getLast hne).isOption = true :=
        List.rdropWhile_last_not _ _ hne
      rwa [List.getLast_congr hne (List.concat_ne_nil w ws) hlast, List.getLast_append_singleton,
        Bool.not_eq_true] at hnot
    have hws := takeWords_filled removing ws ⟨b, [], none⟩ h
    rw [hlast, List.foldlM_append] at hs
    cases hfirst : ws.foldlM (takeWord removing) ⟨b, [], none⟩ with
    | error b' =>
      rw [hfirst] at hs
      cases hs
    | ok s' =>
      rw [hfirst] at hs hws
      have hw : takeWord removing s' w = .ok s := by
        rw [← hs]
        exact (bind_pure _).symm
      have hfilled := takeWord_ok hws hw
      rwa [hmember] at hfilled

end

end Book
end Recipients
