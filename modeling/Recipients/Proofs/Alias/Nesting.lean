import Recipients.Proofs.Alias.FixedPoint

/-
  Groups in an expanded list. A list is balanced if, read from the left, no more groups are closed
  than were opened, and in the end all are closed. If the lists of all aliases are balanced, then an
  expanded list is balanced exactly if the list was (`isBalanced_expand_iff`).

  What the walk carries is the number of groups that are open (`openAfter`). An alias may come up
  inside a group of another one, so the number is any; the entries of an alias leave it as it is, and
  so does everything that is dropped, an entry with a mailbox each time.
-/

namespace Recipients

namespace Address

/-- The number of open groups after an entry, `n` being open before it; `none` if it closes a group
    and there is none. -/
def openAfter (n : Nat) (a : Address) : Option Nat :=
  if a.isGroupMarker then some (n + 1)
  else if a.isGroupEnd then (if n = 0 then none else some (n - 1))
  else some n

theorem openAfter_of_isSome {a : Address} (h : a.mailbox.isSome) (n : Nat) :
    a.openAfter n = some n := by
  obtain ⟨m, hm⟩ := Option.isSome_iff_exists.1 h
  simp [openAfter, isGroupMarker, isGroupEnd, hm]

theorem not_isGroupEnd_of_isGroupMarker {a : Address} (h : a.isGroupMarker = true) :
    a.isGroupEnd = false := by
  have hg : a.group = true := (Bool.and_eq_true_iff.1 h).1
  simp [isGroupEnd, hg]

/-- A marker opens a group, a terminator closes one, and no entry is both. -/
theorem openAfter_eq_some_iff {a : Address} {n k : Nat} :
    a.openAfter n = some k ↔
      k + (if a.isGroupEnd then 1 else 0) = n + (if a.isGroupMarker then 1 else 0) := by
  unfold openAfter
  cases hmarker : a.isGroupMarker with
  | true =>
    simp only [not_isGroupEnd_of_isGroupMarker hmarker, ↓reduceIte, Bool.false_eq_true,
      Option.some_inj]
    omega
  | false =>
    cases a.isGroupEnd with
    | true =>
      simp only [Bool.false_eq_true, ↓reduceIte, Option.ite_none_left_eq_some, Option.some_inj]
      omega
    | false =>
      simp only [Bool.false_eq_true, ↓reduceIte, Option.some_inj]
      omega

end Address

namespace AddressList

/-- Read from the left, no more groups are closed than opened, and in the end as many. -/
structure IsBalanced (l : AddressList) : Prop where
  start : ∀ p, p <+: l → p.countP Address.isGroupEnd ≤ p.countP Address.isGroupMarker
  whole : l.countP Address.isGroupEnd = l.countP Address.isGroupMarker

/-- The number of open groups after a list, `n` being open before it. -/
def openAfter (n : Nat) (l : AddressList) : Option Nat := l.foldlM Address.openAfter n

theorem openAfter_nil (n : Nat) : openAfter n [] = some n := rfl

theorem openAfter_cons (n : Nat) (a : Address) (l : AddressList) :
    openAfter n (a :: l) = (a.openAfter n).bind fun k => openAfter k l :=
  List.foldlM_cons

theorem openAfter_append (n : Nat) (l l' : AddressList) :
    openAfter n (l ++ l') = (openAfter n l).bind fun k => openAfter k l' :=
  List.foldlM_append

theorem openAfter_eq_some_iff {l : AddressList} {n k : Nat} :
    openAfter n l = some k ↔
      (∀ p, p <+: l → p.countP Address.isGroupEnd ≤ n + p.countP Address.isGroupMarker) ∧
        k + l.countP Address.isGroupEnd = n + l.countP Address.isGroupMarker := by
  induction l generalizing n with
  | nil =>
    rw [openAfter_nil, Option.some_inj]
    constructor
    · rintro rfl
      refine ⟨fun p hp => ?_, rfl⟩
      rw [List.prefix_nil.1 hp]
      exact Nat.zero_le _
    · rintro ⟨-, hwhole⟩
      exact hwhole.symm
  | cons a l ih =>
    rw [openAfter_cons, Option.bind_eq_some_iff, List.countP_cons, List.countP_cons]
    constructor
    · rintro ⟨k', hfirst, hrest⟩
      obtain ⟨hstart, hwhole⟩ := ih.1 hrest
      have hone := Address.openAfter_eq_some_iff.1 hfirst
      refine ⟨fun p hp => ?_, by omega⟩
      rcases List.prefix_cons_iff.1 hp with rfl | ⟨t, rfl, ht⟩
      · exact Nat.zero_le _
      · have := hstart t ht
        rw [List.countP_cons, List.countP_cons]
        omega
    · rintro ⟨hstart, hwhole⟩
      have hone := hstart [a] ⟨l, rfl⟩
      rw [List.countP_singleton, List.countP_singleton] at hone
      refine ⟨n + (if a.isGroupMarker then 1 else 0) - (if a.isGroupEnd then 1 else 0),
        Address.openAfter_eq_some_iff.2 (by omega), ih.2 ⟨fun t ht => ?_, by omega⟩⟩
      have := hstart (a :: t) ((List.prefix_cons_inj a).2 ht)
      rw [List.countP_cons, List.countP_cons] at this
      omega

theorem isBalanced_iff {l : AddressList} : l.IsBalanced ↔ openAfter 0 l = some 0 := by
  rw [openAfter_eq_some_iff]
  simp only [Nat.zero_add]
  exact ⟨fun h => ⟨h.start, h.whole⟩, fun h => ⟨h.1, h.2⟩⟩

instance : DecidablePred IsBalanced := fun _ => decidable_of_iff _ isBalanced_iff.symm

/-- Where a balanced list stands inside groups, as many are open after it as before. -/
theorem IsBalanced.openAfter {l : AddressList} (h : l.IsBalanced) (n : Nat) :
    openAfter n l = some n := by
  refine openAfter_eq_some_iff.2 ⟨fun p hp => ?_, by rw [h.whole]⟩
  have := h.start p hp
  omega

/-- Deduplication drops entries with a mailbox only. -/
theorem openAfter_dedupe (n : Nat) (l : AddressList) : openAfter n (dedupe l) = openAfter n l := by
  induction l using List.reverseRecOn with
  | nil => rfl
  | append_singleton l a ih =>
    rw [dedupe_append_singleton, keep]
    split
    · rename_i hsearch
      obtain ⟨m, hm, -⟩ := search_iff.1 hsearch
      have ha : (openAfter · [a]) = some := funext fun k => by
        rw [openAfter_cons, a.openAfter_of_isSome (by rw [hm]; rfl)]
        rfl
      rw [ih, openAfter_append, ha, Option.bind_fun_some]
    · rw [openAfter_append, openAfter_append, ih]

end AddressList

namespace Expander

variable {e : Expander}

theorem candidate?_of_mailbox {a : Address} (h : a.mailbox = none) : candidate? a = none := by
  simp [candidate?, h]

/-- An entry that is settled opens or closes a group if it did so before. -/
theorem openAfter_settled (e : Expander) (n : Nat) (a : Address) :
    (e.settled a).openAfter n = a.openAfter n := by
  cases hm : a.mailbox with
  | none =>
    have hqualified : e.qualified a = a := by
      rcases e.qualified_eq with h | ⟨host, h⟩ <;> rw [h]
      · rfl
      · exact AddressList.qualifyEntry_of_at (.inr fun m hm' => by rw [hm] at hm'; cases hm')
    rw [settled, candidate?_of_mailbox hm, Option.bind_none, hqualified]
  | some m =>
    have hsettled : (e.settled a).mailbox.isSome := by
      rw [settled_mailbox, counted, hm]
      rfl
    rw [Address.openAfter_of_isSome hsettled, Address.openAfter_of_isSome (by rw [hm]; rfl)]

/-- An entry that names an alias neither opens nor closes a group. -/
theorem openAfter_of_alias? {a : Address} {b : Alias} (h : e.alias? a = some b) (n : Nat) :
    a.openAfter n = some n := by
  obtain ⟨-, -, m, hm, -⟩ := alias?_eq_some_iff.1 h
  exact Address.openAfter_of_isSome (by rw [hm]; rfl) n

/-- A walk leaves as many groups open as its list does. -/
theorem openAfter_expandFrom (haliases : ∀ b ∈ e.aliases.aliases, b.addresses.IsBalanced)
    (seen : List Text) (l : AddressList) (n : Nat) :
    AddressList.openAfter n (e.expandFrom seen l).1 = AddressList.openAfter n l := by
  fun_induction expandFrom e seen l generalizing n with
  | case1 => rfl
  | case2 seen a rest ha tail ih =>
    rw [AddressList.openAfter_cons, AddressList.openAfter_cons, openAfter_settled]
    exact congrArg (Option.bind _) (funext fun k => ih k)
  | case3 seen a rest b hb hs ih =>
    rw [ih, AddressList.openAfter_cons, openAfter_of_alias? hb, Option.bind_some]
  | case4 seen a rest b hb hs inner tail ihInner ihTail =>
    -- The entries of `b` stand in the place of `a`, inside the groups that are open there.
    have hmembers := (haliases b (mem_of_alias? hb)).openAfter n
    rw [AddressList.openAfter_append, ihInner, hmembers, Option.bind_some, ihTail,
      AddressList.openAfter_cons, openAfter_of_alias? hb, Option.bind_some]

/-- If the lists of all aliases are balanced, an expanded list is balanced exactly if the list was. -/
theorem isBalanced_expand_iff (haliases : ∀ b ∈ e.aliases.aliases, b.addresses.IsBalanced)
    (l : AddressList) : (e.expand l).IsBalanced ↔ l.IsBalanced := by
  rw [AddressList.isBalanced_iff, AddressList.isBalanced_iff, expand, AddressList.openAfter_dedupe,
    openAfter_expandFrom haliases]

/-- Aliases with groups that name each other, and a list that names one of them inside a group. -/
theorem isBalanced_expand_nested :
    let e : Expander :=
      { aliases := { aliases := [
          { name := "team".toList
            addresses := [.groupMarker "t".toList, .ofMailbox "work".toList, .groupEnd,
              .ofMailbox "a@x.org".toList] },
          { name := "work".toList
            addresses := [.groupMarker [], .ofMailbox "Team".toList, .ofMailbox "b".toList,
              .groupEnd] }] }
        domain := some "x.org".toList }
    let l : AddressList :=
      [.groupMarker "all".toList, .ofMailbox "TEAM".toList, .ofMailbox "A@x.org".toList, .groupEnd]
    (∀ b ∈ e.aliases.aliases, b.addresses.IsBalanced) ∧ l.IsBalanced ∧ (e.expand l).IsBalanced := by
  intro e l
  have haliases : ∀ b ∈ e.aliases.aliases, b.addresses.IsBalanced := by decide
  have hl : l.IsBalanced := by decide
  exact ⟨haliases, hl, (isBalanced_expand_iff haliases l).2 hl⟩

end Expander
end Recipients
