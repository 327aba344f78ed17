import Mathlib.Data.List.Induction
import Mathlib.Data.List.Nodup
import Recipients.AddressList

/-
  What deduplication leaves, seen through mailboxes in small letters: no mailbox is lost
  (`mem_folded_dedupe`) and none stands there twice (`nodup_folded_dedupe`). A list in which none
  stands twice stays as it is (`dedupe_of_nodup`). Seen through places: the entries without a mailbox stay,
  and those whose mailbox no earlier entry of the list has, also none that was dropped
  (`dedupe_firsts`).
-/

namespace Recipients
namespace AddressList

/-- The mailboxes in order, in small letters. -/
def folded (l : AddressList) : List Text := l.mailboxes.map Text.lower

theorem folded_append (l m : AddressList) : folded (l ++ m) = folded l ++ folded m := by
  simp [folded, mailboxes]

theorem folded_singleton (a : Address) : folded [a] = (a.mailbox.map Text.lower).toList := by
  unfold folded mailboxes
  cases h : a.mailbox <;> simp [h]

theorem folded_cons (a : Address) (l : AddressList) :
    folded (a :: l) = (a.mailbox.map Text.lower).toList ++ folded l := by
  rw [← folded_singleton, ← folded_append, List.singleton_append]

theorem mem_folded {l : AddressList} {k : Text} :
    k ∈ folded l ↔ ∃ a ∈ l, ∃ m, a.mailbox = some m ∧ m.lower = k := by
  simp only [folded, mailboxes, List.mem_map, List.mem_filterMap]
  constructor
  · rintro ⟨m, ⟨a, ha, hm⟩, hk⟩
    exact ⟨a, ha, m, hm, hk⟩
  · rintro ⟨a, ha, m, hm, hk⟩
    exact ⟨m, ⟨a, ha, hm⟩, hk⟩

theorem sameMailbox_iff {a b : Address} :
    a.sameMailbox b = true ↔ ∃ m n, a.mailbox = some m ∧ b.mailbox = some n ∧ m.lower = n.lower := by
  unfold Address.sameMailbox
  cases a.mailbox <;> cases b.mailbox <;> simp [Text.alike_iff]

theorem search_iff {l : AddressList} {a : Address} :
    l.search a = true ↔ ∃ m, a.mailbox = some m ∧ m.lower ∈ folded l := by
  unfold search
  rw [List.any_eq_true]
  constructor
  · rintro ⟨b, hb, hsame⟩
    obtain ⟨n, m, hn, hm, hk⟩ := sameMailbox_iff.1 hsame
    exact ⟨m, hm, mem_folded.2 ⟨b, hb, n, hn, hk⟩⟩
  · rintro ⟨m, hm, hk⟩
    obtain ⟨b, hb, n, hn, hk⟩ := mem_folded.1 hk
    exact ⟨b, hb, sameMailbox_iff.2 ⟨n, m, hn, hm, hk⟩⟩

theorem mem_folded_keep {l : AddressList} {a : Address} {k : Text} :
    k ∈ folded (keep l a) ↔ k ∈ folded (l ++ [a]) := by
  unfold keep
  split
  · rename_i hsearch
    obtain ⟨m, hm, hmem⟩ := search_iff.1 hsearch
    rw [folded_append, folded_singleton, hm, List.mem_append]
    constructor
    · exact Or.inl
    · rintro (h | h)
      · exact h
      · rw [Option.map_some, Option.toList_some, List.mem_singleton] at h
        exact h ▸ hmem
  · exact Iff.rfl

theorem nodup_folded_keep {l : AddressList} {a : Address} (h : (folded l).Nodup) :
    (folded (keep l a)).Nodup := by
  unfold keep
  split
  · exact h
  · rename_i hsearch
    rw [folded_append, folded_singleton]
    cases hm : a.mailbox with
    | none => simpa using h
    | some m =>
      have hfresh : m.lower ∉ folded l := fun hmem => hsearch (search_iff.2 ⟨m, hm, hmem⟩)
      rw [Option.map_some, Option.toList_some, List.nodup_append]
      refine ⟨h, List.nodup_singleton _, ?_⟩
      intro x hx y hy hxy
      rw [List.mem_singleton] at hy
      exact hfresh (hy ▸ hxy ▸ hx)

theorem mem_folded_dedupe {l : AddressList} {k : Text} : k ∈ folded (dedupe l) ↔ k ∈ folded l := by
  induction l using List.reverseRecOn generalizing k with
  | nil => exact Iff.rfl
  | append_singleton l a ih =>
    rw [dedupe_append_singleton, mem_folded_keep, folded_append, folded_append, List.mem_append,
      List.mem_append, ih]

theorem nodup_folded_dedupe (l : AddressList) : (folded (dedupe l)).Nodup := by
  induction l using List.reverseRecOn with
  | nil => exact List.nodup_nil
  | append_singleton l a ih =>
    rw [dedupe_append_singleton]
    exact nodup_folded_keep ih

theorem dedupe_subset (l : AddressList) : dedupe l ⊆ l := by
  induction l using List.reverseRecOn with
  | nil => exact List.Subset.refl _
  | append_singleton l a ih =>
    rw [dedupe_append_singleton, keep]
    split
    · exact List.subset_append_of_subset_left _ ih
    · exact List.append_subset.2
        ⟨List.subset_append_of_subset_left _ ih, List.subset_append_right _ _⟩

theorem search_eq_false_of_nodup {l : AddressList} {a : Address} (h : (folded (l ++ [a])).Nodup) :
    l.search a = false := by
  rw [Bool.eq_false_iff]
  intro hsearch
  obtain ⟨m, hm, hmem⟩ := search_iff.1 hsearch
  rw [folded_append, folded_singleton, hm, List.nodup_append] at h
  exact h.2.2 _ hmem _ List.mem_cons_self rfl

theorem dedupe_of_nodup {l : AddressList} (h : (folded l).Nodup) : dedupe l = l := by
  induction l using List.reverseRecOn with
  | nil => rfl
  | append_singleton l a ih =>
    have hl : (folded l).Nodup := by
      rw [folded_append] at h
      exact (List.nodup_append.1 h).1
    rw [dedupe_append_singleton, ih hl, keep, search_eq_false_of_nodup h]
    rfl

theorem search_dedupe (l : AddressList) (a : Address) : (dedupe l).search a = l.search a := by
  rw [Bool.eq_iff_iff, search_iff, search_iff]
  simp only [mem_folded_dedupe]

/-- Where `f` gives entries with one mailbox one mailbox again, what was dropped before is dropped
    after it too. -/
theorem dedupe_map_dedupe {f : Address → Address} {l : AddressList}
    (hf : ∀ a ∈ l, ∀ b ∈ l, a.sameMailbox b = true → (f a).sameMailbox (f b) = true) :
    dedupe ((dedupe l).map f) = dedupe (l.map f) := by
  induction l using List.reverseRecOn with
  | nil => rfl
  | append_singleton l a ih =>
    have hbefore : ∀ b ∈ l, ∀ c ∈ l, b.sameMailbox c = true → (f b).sameMailbox (f c) = true :=
      fun b hb c hc => hf b (List.mem_append_left [a] hb) c (List.mem_append_left [a] hc)
    have hwhole : dedupe ((l ++ [a]).map f) = keep (dedupe (l.map f)) (f a) := by
      rw [List.map_append]
      exact dedupe_append_singleton _ _
    rw [hwhole, dedupe_append_singleton, keep]
    split
    · rename_i hsearch
      rw [search_dedupe] at hsearch
      obtain ⟨b, hb, hsame⟩ := List.any_eq_true.1 hsearch
      have hfsame : (f b).sameMailbox (f a) = true :=
        hf b (List.mem_append_left [a] hb) a (List.mem_append_right l List.mem_cons_self) hsame
      have hfound : (dedupe (l.map f)).search (f a) = true := by
        rw [search_dedupe]
        exact List.any_eq_true.2 ⟨f b, List.mem_map_of_mem hb, hfsame⟩
      rw [ih hbefore, keep, if_pos hfound]
    · rw [List.map_append]
      show dedupe ((dedupe l).map f ++ [f a]) = _
      rw [dedupe_append_singleton, ih hbefore]

theorem pairwise_of_nodup_folded {l : AddressList} (h : (folded l).Nodup) :
    l.Pairwise fun a b => a.sameMailbox b = false := by
  induction l using List.reverseRecOn with
  | nil => exact .nil
  | append_singleton l a ih =>
    have hfresh := search_eq_false_of_nodup h
    rw [folded_append] at h
    refine List.pairwise_append.2 ⟨ih (List.nodup_append.1 h).1, List.pairwise_singleton _ _, ?_⟩
    intro b hb c hc
    rw [List.mem_singleton.1 hc]
    exact Bool.eq_false_iff.2 (List.any_eq_false.1 hfresh b hb)

theorem nodup_folded_of_pairwise {l : AddressList}
    (h : l.Pairwise fun a b => a.sameMailbox b = false) : (folded l).Nodup := by
  induction h with
  | nil => exact List.nodup_nil
  | @cons a l hfresh _ ih =>
    rw [folded_cons]
    cases hm : a.mailbox with
    | none => exact ih
    | some m =>
      refine List.nodup_cons.2 ⟨fun hmem => ?_, ih⟩
      obtain ⟨b, hb, n, hn, hsame⟩ := mem_folded.1 hmem
      have hab : a.sameMailbox b = true := sameMailbox_iff.2 ⟨m, n, hm, hn, hsame.symm⟩
      rw [hfresh b hb] at hab
      cases hab

/-! ## Which entries stay -/

/-- At the place `i` stands an entry without a mailbox, or one whose mailbox no earlier entry has. -/
def IsFirst (l : AddressList) (i : Nat) : Prop :=
  ∀ a ∈ l[i]?, a.mailbox = none ∨ ∀ j < i, ∀ b ∈ l[j]?, b.sameMailbox a = false

instance (l : AddressList) : DecidablePred l.IsFirst :=
  fun i => inferInstanceAs (Decidable (∀ a ∈ l[i]?, _ ∨ _))

/-- What comes after an entry does not matter for it. -/
theorem isFirst_append {l : AddressList} {i : Nat} (hi : i < l.length) (m : AddressList) :
    IsFirst (l ++ m) i ↔ l.IsFirst i := by
  have hget : ∀ j ≤ i, (l ++ m)[j]? = l[j]? := fun j hj =>
    List.getElem?_append_left (Nat.lt_of_le_of_lt hj hi)
  unfold IsFirst
  rw [hget i (Nat.le_refl i)]
  refine forall₂_congr fun a _ => or_congr_right (forall₂_congr fun j hj => ?_)
  rw [hget j (Nat.le_of_lt hj)]

theorem isFirst_length {l : AddressList} {a : Address} :
    IsFirst (l ++ [a]) l.length ↔ l.search a = false := by
  have hlast : (l ++ [a])[l.length]? = some a := List.getElem?_concat_length
  have hbefore : ∀ j < l.length, (l ++ [a])[j]? = l[j]? := fun j hj => List.getElem?_append_left hj
  unfold IsFirst
  rw [hlast, search, List.any_eq_false]
  constructor
  · intro h b hb hsame
    obtain ⟨j, hj⟩ := List.getElem?_of_mem hb
    obtain ⟨hlt, -⟩ := List.getElem?_eq_some_iff.1 hj
    rcases h a rfl with hnone | hfresh
    · obtain ⟨_, m, _, hm, _⟩ := sameMailbox_iff.1 hsame
      rw [hnone] at hm
      cases hm
    · rw [hfresh j hlt b (by rw [hbefore j hlt, hj]; rfl)] at hsame
      cases hsame
  · rintro h _ ⟨⟩
    refine .inr fun j hj b hb => ?_
    rw [hbefore j hj] at hb
    exact Bool.eq_false_iff.2 (h b (List.mem_of_getElem? hb))

/-- The entries that stay are those at these places, as they were. -/
theorem map_dedupe (l : AddressList) :
    (dedupe l).map some = ((List.range l.length).filter l.IsFirst).map (l[·]?) := by
  induction l using List.reverseRecOn with
  | nil => rfl
  | append_singleton l a ih =>
    have hbefore : ((List.range l.length).filter (IsFirst (l ++ [a]))).map ((l ++ [a])[·]?) =
        (dedupe l).map some := by
      have hplaces : (List.range l.length).filter (IsFirst (l ++ [a])) =
          (List.range l.length).filter (IsFirst l) :=
        List.filter_congr fun i hi => decide_eq_decide.2 (isFirst_append (List.mem_range.1 hi) [a])
      rw [hplaces, ih]
      refine List.map_congr_left fun i hi => ?_
      exact List.getElem?_append_left (List.mem_range.1 (List.mem_filter.1 hi).1)
    rw [List.length_append, List.length_singleton, List.range_succ, List.filter_append,
      List.map_append, hbefore, dedupe_append_singleton, keep, search_dedupe]
    cases hsearch : search l a with
    | true =>
      have hlast : ¬ IsFirst (l ++ [a]) l.length := by
        rw [isFirst_length, hsearch]
        decide
      simp [hlast]
    | false =>
      have hlast : IsFirst (l ++ [a]) l.length := isFirst_length.2 hsearch
      simp [hlast]

/-- Deduplication leaves exactly the entries without a mailbox and the first ones with theirs, in order
    and unchanged. So no two that are left have one mailbox, every mailbox is still there, and a second
    time nothing changes. -/
theorem dedupe_firsts (l : AddressList) :
    (dedupe l).map some = ((List.range l.length).filter l.IsFirst).map (l[·]?) ∧
    (dedupe l).Pairwise (fun a b => a.sameMailbox b = false) ∧
    (∀ a ∈ l, a.mailbox ≠ none → ∃ b ∈ dedupe l, b.sameMailbox a = true) ∧
    dedupe (dedupe l) = dedupe l := by
  refine ⟨map_dedupe l, pairwise_of_nodup_folded (nodup_folded_dedupe l), ?_,
    dedupe_of_nodup (nodup_folded_dedupe l)⟩
  intro a ha hm
  obtain ⟨m, hm⟩ := Option.ne_none_iff_exists'.1 hm
  have hkept : (dedupe l).search a = true := by
    rw [search_dedupe]
    exact search_iff.2 ⟨m, hm, mem_folded.2 ⟨a, ha, m, hm, rfl⟩⟩
  exact List.any_eq_true.1 hkept

/-- Markers and terminators stay where they are, and a mailbox in other capitals goes. -/
example :
    dedupe [.groupMarker ['g'], .ofMailbox ['a'], .groupEnd, .ofMailbox ['A'], .groupEnd] =
      [.groupMarker ['g'], .ofMailbox ['a'], .groupEnd, .groupEnd] := by
  decide

end AddressList
end Recipients
