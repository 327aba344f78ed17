import Recipients.Group
import Recipients.Proofs.AddressList.Removal

/-
  How often a mailbox stands in a group. Adding a list looks at the mailboxes that are in the group
  before, not at what the list itself holds twice: a mailbox that is new stands in the group as often
  as in the list that brings it (`count_addAddresses`). So a mailbox stands there more than once
  exactly if such a list has brought it and nothing has removed it since (`Repeats`,
  `one_lt_count_run`). Entries without a mailbox are always added.
-/

namespace Recipients

namespace Group

/-! ## One change -/

/-- How often a mailbox, given in small letters, stands in the group. -/
def count (g : Group) (k : Text) : Nat := g.addresses.folded.count k

theorem count_filter_not_mem (ks l : List Text) (k : Text) :
    (l.filter fun k => k ∉ ks).count k = if k ∈ ks then 0 else l.count k := by
  split
  · rename_i hk
    simp [List.count_eq_zero, hk]
  · rename_i hk
    exact List.count_filter (by simpa using hk)

theorem count_addAddresses (g : Group) (l : AddressList) (k : Text) :
    (g.addAddresses l).count k = if g.count k = 0 then l.folded.count k else g.count k := by
  have hmem : k ∈ g.addresses.folded ↔ g.count k ≠ 0 := by
    rw [count, ← Nat.pos_iff_ne_zero, List.count_pos_iff]
  rw [count, addAddresses, AddressList.folded_append, List.count_append,
    AddressList.folded_without, count_filter_not_mem, ← count]
  by_cases hk : g.count k = 0
  · rw [if_pos hk, if_neg (by simpa [hmem] using hk), hk, Nat.zero_add]
  · rw [if_neg hk, if_pos (hmem.2 hk), Nat.add_zero]

theorem count_removeAddresses (g : Group) (l : AddressList) (k : Text) :
    (g.removeAddresses l).count k = if k ∈ l.folded then 0 else g.count k := by
  rw [count, removeAddresses, AddressList.folded_foldl_remove, count_filter_not_mem]
  rfl

/-- The second time, a list adds its entries without a mailbox and no other. -/
theorem addAddresses_addAddresses (g : Group) (l : AddressList) :
    ((g.addAddresses l).addAddresses l).addresses =
      (g.addAddresses l).addresses ++ l.filter fun a => a.mailbox.isNone := by
  refine congrArg ((g.addAddresses l).addresses ++ ·) (List.filter_congr fun a ha => ?_)
  cases hm : a.mailbox with
  | none => simp [AddressList.search, Address.sameMailbox, hm]
  | some m =>
    have hthere : m.lower ∈ (g.addAddresses l).addresses.folded := by
      have hl : m.lower ∈ l.folded := AddressList.mem_folded.2 ⟨a, ha, m, hm, rfl⟩
      have hcount := g.count_addAddresses l m.lower
      refine List.count_pos_iff.1 (?_ : 0 < (g.addAddresses l).count m.lower)
      rw [hcount]
      split
      · exact List.count_pos_iff.2 hl
      · rename_i hne
        exact Nat.pos_of_ne_zero hne
    rw [AddressList.search_iff.2 ⟨m, hm, hthere⟩]
    rfl

theorem addAddresses_addAddresses_eq_iff (g : Group) (l : AddressList) :
    (g.addAddresses l).addAddresses l = g.addAddresses l ↔ ∀ a ∈ l, a.mailbox.isSome = true := by
  have hadded := g.addAddresses_addAddresses l
  rw [← AddressList.filter_isNone_eq_nil_iff]
  constructor
  · intro h
    rw [h] at hadded
    exact List.append_right_eq_self.1 hadded.symm
  · intro h
    rw [h, List.append_nil] at hadded
    exact congrArg (fun addresses => { g with addresses }) hadded

/-! ## Many changes -/

/-- A change to the addresses of a group. -/
inductive Change where
  | add (l : AddressList)
  | remove (l : AddressList)

def apply (g : Group) : Change → Group
  | .add l => g.addAddresses l
  | .remove l => g.removeAddresses l

/-- A group as it comes about, by changes to a new one. -/
def run (name : Text) (changes : List Change) : Group := changes.foldl apply { name }

/-- A list that holds the mailbox more than once has brought it into the group, and nothing has
    removed it since. -/
def Repeats (name : Text) (changes : List Change) (k : Text) : Prop :=
  ∃ before l after, changes = before ++ .add l :: after ∧ (run name before).count k = 0 ∧
    1 < l.folded.count k ∧ ∀ m, .remove m ∈ after → k ∉ m.folded

section

variable {name : Text} {changes : List Change} {k : Text}

theorem run_concat (name : Text) (changes : List Change) (c : Change) :
    run name (changes ++ [c]) = (run name changes).apply c := by
  rw [run, List.foldl_append]
  rfl

theorem not_repeats_nil : ¬ Repeats name [] k := by
  rintro ⟨before, l, after, h, -⟩
  exact absurd h.symm (by simp)

theorem repeats_add {l : AddressList} : Repeats name (changes ++ [.add l]) k ↔
    Repeats name changes k ∨ (run name changes).count k = 0 ∧ 1 < l.folded.count k := by
  constructor
  · rintro ⟨before, m, after, h, hnew, hm, hkeep⟩
    rcases List.eq_nil_or_concat' after with rfl | ⟨after, c, rfl⟩
    · obtain ⟨rfl, hlast⟩ := List.append_inj' h rfl
      obtain rfl : l = m := by simpa using hlast
      exact .inr ⟨hnew, hm⟩
    · rw [← List.cons_append, ← List.append_assoc] at h
      obtain ⟨rfl, -⟩ := List.append_inj' h rfl
      exact .inl ⟨before, m, after, rfl, hnew, hm, fun r hr => hkeep r (List.mem_append_left _ hr)⟩
  · rintro (⟨before, m, after, rfl, hnew, hm, hkeep⟩ | ⟨hnew, hl⟩)
    · refine ⟨before, m, after ++ [.add l], by simp, hnew, hm, fun r hr => hkeep r ?_⟩
      simpa using hr
    · exact ⟨changes, l, [], rfl, hnew, hl, fun _ hr => absurd hr List.not_mem_nil⟩

theorem repeats_remove {l : AddressList} : Repeats name (changes ++ [.remove l]) k ↔
    Repeats name changes k ∧ k ∉ l.folded := by
  constructor
  · rintro ⟨before, m, after, h, hnew, hm, hkeep⟩
    rcases List.eq_nil_or_concat' after with rfl | ⟨after, c, rfl⟩
    · obtain ⟨-, hlast⟩ := List.append_inj' h rfl
      cases hlast
    · rw [← List.cons_append, ← List.append_assoc] at h
      obtain ⟨rfl, hlast⟩ := List.append_inj' h rfl
      obtain rfl := (List.cons.inj hlast).1
      exact ⟨⟨before, m, after, rfl, hnew, hm, fun r hr => hkeep r (List.mem_append_left _ hr)⟩,
        hkeep l (List.mem_append_right _ List.mem_cons_self)⟩
  · rintro ⟨⟨before, m, after, rfl, hnew, hm, hkeep⟩, hl⟩
    refine ⟨before, m, after ++ [.remove l], by simp, hnew, hm, fun r hr => ?_⟩
    rcases List.mem_append.1 hr with hr | hr
    · exact hkeep r hr
    · obtain rfl : r = l := by simpa using hr
      exact hl

theorem one_lt_count_run : 1 < (run name changes).count k ↔ Repeats name changes k := by
  induction changes using List.reverseRecOn with
  | nil => exact iff_of_false (by decide : ¬ 1 < 0) not_repeats_nil
  | append_singleton changes c ih =>
    rw [run_concat]
    cases c with
    | add l =>
      rw [repeats_add, ← ih, apply, count_addAddresses]
      split <;> omega
    | remove l =>
      rw [repeats_remove, ← ih, apply, count_removeAddresses]
      split
      · rename_i hk
        simp [hk]
      · rename_i hk
        simp [hk]

end

/-- After any changes no two entries of a group have the same mailbox, exactly if no list that holds a
    mailbox more than once has brought one that is still there. Adding a list a second time changes
    nothing exactly if each of its entries has a mailbox. -/
theorem mailboxes_run (name : Text) (changes : List Change) :
    ((run name changes).addresses.Pairwise (fun a b => a.sameMailbox b = false) ↔
      ∀ k, ¬ Repeats name changes k) ∧
    ∀ l, run name (changes ++ [.add l, .add l]) = run name (changes ++ [.add l]) ↔
      ∀ a ∈ l, a.mailbox.isSome = true := by
  constructor
  · have hnodup : (run name changes).addresses.folded.Nodup ↔ ∀ k, ¬ Repeats name changes k := by
      simp only [List.nodup_iff_count, ← one_lt_count_run, Nat.not_lt]
      rfl
    rw [← hnodup]
    exact ⟨AddressList.nodup_folded_of_pairwise, AddressList.pairwise_of_nodup_folded⟩
  · intro l
    have htwice : changes ++ [.add l, .add l] = (changes ++ [.add l]) ++ [.add l] := by simp
    rw [htwice, run_concat, run_concat]
    exact addAddresses_addAddresses_eq_iff _ l

/-- A list with a mailbox in two spellings; and one with a terminator, added twice. -/
theorem mailboxes_repeated :
    ¬ ((run ['g'] [.add [.ofMailbox "a@x".toList, .ofMailbox "A@x".toList]]).addresses.Pairwise
      fun a b => a.sameMailbox b = false) ∧
    run ['g'] [.add [.groupEnd], .add [.groupEnd]] ≠ run ['g'] [.add [.groupEnd]] := by
  refine ⟨by decide, fun h => ?_⟩
  have hlength := congrArg (fun g => g.addresses.length) h
  revert hlength
  decide

end Group
end Recipients
