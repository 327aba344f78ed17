import Recipients.Proofs.AddressList.Dedupe

/-
  What removing mailboxes leaves. A filter that looks at mailboxes up to case is the same filter on the
  mailboxes in small letters (`folded_filter`), so both ways to take mailboxes out of a list are seen
  there: `folded_without` and `folded_foldl_remove`.
-/

namespace Recipients
namespace AddressList

/-- A filter that looks at mailboxes only, and not at their case. -/
theorem folded_filter {p : Address → Bool} {q : Text → Bool}
    (h : ∀ a m, a.mailbox = some m → p a = q m.lower) (l : AddressList) :
    folded (l.filter p) = (folded l).filter q := by
  induction l with
  | nil => rfl
  | cons a l ih =>
    rw [folded_cons, List.filter_append, ← ih]
    cases hm : a.mailbox with
    | none =>
      rw [List.filter_cons]
      split
      · rw [folded_cons, hm]
        rfl
      · rfl
    | some m =>
      rw [List.filter_cons, h a m hm]
      cases hq : q m.lower <;> simp [folded_cons, hm, hq]

theorem folded_without (l other : AddressList) :
    folded (l.without other) = (folded l).filter fun k => k ∉ folded other := by
  refine folded_filter (fun a m hm => ?_) l
  have hsearch : other.search a = decide (m.lower ∈ folded other) := by
    rw [Bool.eq_iff_iff, search_iff, decide_eq_true_iff]
    simp [hm]
  rw [hsearch, decide_not]

theorem without_nil (l : AddressList) : l.without [] = l := List.filter_eq_self.2 fun _ _ => rfl

/-- Removing mailboxes one after the other is removing them at once. -/
theorem foldl_remove (mailboxes : List Text) (l : AddressList) :
    mailboxes.foldl remove l =
      l.filter fun a => a.mailbox.all fun m => m.lower ∉ mailboxes.map Text.lower := by
  induction mailboxes generalizing l with
  | nil => exact (List.filter_eq_self.2 fun a _ => by cases a.mailbox <;> simp).symm
  | cons n ns ih =>
    rw [List.foldl_cons, ih, remove, List.filter_filter]
    refine List.filter_congr fun a _ => ?_
    unfold hasMailbox
    cases a.mailbox <;> simp [Text.alike, Bool.and_comm, Bool.beq_eq_decide_eq]

theorem folded_foldl_remove (mailboxes : List Text) (l : AddressList) :
    folded (mailboxes.foldl remove l) =
      (folded l).filter fun k => k ∉ mailboxes.map Text.lower := by
  rw [foldl_remove]
  exact folded_filter (fun a m hm => by rw [hm, Option.all_some]) l

theorem filter_isNone_eq_nil_iff (l : AddressList) :
    (l.filter fun a => a.mailbox.isNone) = [] ↔ ∀ a ∈ l, a.mailbox.isSome = true := by
  simp [List.filter_eq_nil_iff, Option.isSome_iff_ne_none]

end AddressList
end Recipients
