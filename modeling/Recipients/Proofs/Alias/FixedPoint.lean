import Recipients.Proofs.Alias.Reachability

/-
  An expanded list has nothing left to expand, and expanding it again leaves it as it is
  (`expand_expand`). What stays in a walk has been settled: it has the real name and the domain that
  it can get. That it has got them keeps it from being taken for the name of an alias later on
  (`settled_cases`): an entry that still could be is one that settling did not touch.
-/

namespace Recipients

/-! ## Entries that are settled -/

theorem AddressList.qualifyEntry_group (host : Text) (a : Address) :
    (qualifyEntry host a).group = a.group := by
  unfold qualifyEntry
  split
  · split <;> rfl
  · rfl

theorem AddressList.qualifyEntry_personal (host : Text) (a : Address) :
    (qualifyEntry host a).personal = a.personal := by
  unfold qualifyEntry
  split
  · split <;> rfl
  · rfl

/-- With a domain, a mailbox outside groups has an at sign. -/
theorem AddressList.at_mem_qualifyEntry {host m : Text} {a : Address} (hg : a.group = false)
    (h : (qualifyEntry host a).mailbox = some m) : '@' ∈ m := by
  unfold qualifyEntry at h
  cases hm : a.mailbox with
  | none =>
    rw [hm] at h
    simp only [hm] at h
    cases h
  | some n =>
    simp only [hm, hg, Bool.false_or] at h
    split at h
    · rename_i hat
      rw [hm] at h
      cases h
      simpa using hat
    · cases h
      simp

theorem AddressList.qualifyEntry_of_at {host : Text} {a : Address}
    (h : a.group = true ∨ ∀ m, a.mailbox = some m → '@' ∈ m) : qualifyEntry host a = a := by
  unfold qualifyEntry
  split
  · rename_i m hm
    have hkept : (a.group || m.contains '@') = true := by
      rcases h with hg | hat
      · rw [hg, Bool.true_or]
      · simp [hat m hm]
    rw [if_pos hkept]
  · rfl

theorem AddressList.qualifyEntry_qualifyEntry (host : Text) (a : Address) :
    qualifyEntry host (qualifyEntry host a) = qualifyEntry host a := by
  apply qualifyEntry_of_at
  cases hg : a.group with
  | true => exact .inl (by rw [qualifyEntry_group, hg])
  | false => exact .inr fun m hm => at_mem_qualifyEntry hg hm

namespace Expander

/-- Qualifying does the same to every entry: nothing, or it adds the domain. -/
theorem qualified_eq (e : Expander) :
    e.qualified = id ∨ ∃ host, e.qualified = AddressList.qualifyEntry host := by
  rcases h : e.domain with _ | _ | ⟨c, host⟩
  · exact .inl (funext fun a => by rw [qualified, h]; rfl)
  · exact .inl (funext fun a => by rw [qualified, h]; rfl)
  · exact .inr ⟨c :: host, funext fun a => by rw [qualified, h]⟩

theorem qualified_group (e : Expander) (a : Address) : (e.qualified a).group = a.group := by
  rcases e.qualified_eq with h | ⟨host, h⟩ <;> rw [h]
  · rfl
  · exact AddressList.qualifyEntry_group host a

theorem qualified_personal (e : Expander) (a : Address) :
    (e.qualified a).personal = a.personal := by
  rcases e.qualified_eq with h | ⟨host, h⟩ <;> rw [h]
  · rfl
  · exact AddressList.qualifyEntry_personal host a

theorem qualified_qualified (e : Expander) (a : Address) :
    e.qualified (e.qualified a) = e.qualified a := by
  rcases e.qualified_eq with h | ⟨host, h⟩ <;> rw [h]
  · rfl
  · exact AddressList.qualifyEntry_qualifyEntry host a

/-- An entry that has got the domain names no local user any more. -/
theorem qualified_cases (e : Expander) (a : Address) :
    e.qualified a = a ∨ candidate? (e.qualified a) = none := by
  rcases e.qualified_eq with h | ⟨host, h⟩ <;> rw [h]
  · exact .inl rfl
  · right
    rw [Option.eq_none_iff_forall_ne_some]
    intro m hname
    obtain ⟨hg, _, hm, hat⟩ := candidate?_eq_some_iff.1 hname
    rw [AddressList.qualifyEntry_group] at hg
    exact hat (AddressList.at_mem_qualifyEntry hg hm)

theorem candidate?_of_personal {a : Address} {name : Text} (h : a.personal = some name) :
    candidate? a = none := by
  simp [candidate?, h]

/-- An entry that settling changes names no local user any more, so it names no alias either. -/
theorem settled_cases (e : Expander) (a : Address) :
    e.settled a = a ∨ candidate? (e.settled a) = none := by
  unfold settled
  split
  · rename_i name _
    exact .inr (candidate?_of_personal (qualified_personal e { a with personal := some name }))
  · exact qualified_cases e a

theorem settled_settled (e : Expander) (a : Address) : e.settled (e.settled a) = e.settled a := by
  rcases settled_cases e a with h | h
  · rw [h, h]
  · have hagain : e.settled (e.settled a) = e.qualified (e.settled a) := by
      rw [settled.eq_def, h, Option.bind_none]
    rw [hagain, settled]
    split <;> exact qualified_qualified e _

theorem alias?_settled {e : Expander} {a : Address} (h : e.alias? a = none) :
    e.alias? (e.settled a) = none := by
  rcases settled_cases e a with hsame | hnone
  · rw [hsame, h]
  · rw [alias?, hnone, Option.bind_none]

theorem settled_group (e : Expander) (a : Address) : (e.settled a).group = a.group := by
  unfold settled
  split <;> exact qualified_group e _

theorem at_mem_settled {e : Expander} {host m : Text} {a : Address} (hdomain : e.domain = some host)
    (hhost : host ≠ []) (hg : a.group = false) (h : (e.settled a).mailbox = some m) : '@' ∈ m := by
  rw [settled_mailbox, counted, hdomain] at h
  obtain ⟨n, _, rfl⟩ := Option.map_eq_some_iff.1 h
  by_cases hat : '@' ∈ n
  · simp [hat]
  · simp [hhost, hg, hat]

/-! ## Lists that are expanded -/

/-- Nothing in the list names an alias or can get a name or a domain, and no mailbox stands there
    twice. -/
structure IsExpanded (e : Expander) (l : AddressList) : Prop where
  names_none : ∀ a ∈ l, e.alias? a = none
  settled : ∀ a ∈ l, e.settled a = a
  nodup : l.folded.Nodup

/-- What is left of a list in which nothing names an alias: the same entries, settled. -/
theorem expandFrom_of_names_none {e : Expander} {seen : List Text} {l : AddressList}
    (h : ∀ a ∈ l, e.alias? a = none) : (e.expandFrom seen l).1 = l.map e.settled := by
  fun_induction expandFrom e seen l with
  | case1 => rfl
  | case2 seen a rest _ tail ih =>
    exact congrArg (e.settled a :: ·) (ih fun c hc => h c (List.mem_cons_of_mem a hc))
  | case3 seen a rest b hb | case4 seen a rest b hb =>
    rw [h a List.mem_cons_self] at hb
    cases hb

theorem IsExpanded.expand_eq {e : Expander} {l : AddressList} (h : e.IsExpanded l) :
    e.expand l = l := by
  have hmap : l.map e.settled = l := by
    rw [List.map_congr_left h.settled, List.map_id']
  rw [expand, expandFrom_of_names_none h.names_none, hmap, AddressList.dedupe_of_nodup h.nodup]

theorem exists_of_mem_expand {e : Expander} {l : AddressList} {x : Address} (h : x ∈ e.expand l) :
    ∃ a, e.alias? a = none ∧ x = e.settled a := by
  obtain ⟨a, _, hnone, hx⟩ := reachable_of_mem_expandFrom (AddressList.dedupe_subset _ h)
  exact ⟨a, hnone, hx⟩

theorem isExpanded_expand (e : Expander) (l : AddressList) : e.IsExpanded (e.expand l) where
  names_none := by
    intro x hx
    obtain ⟨a, hnone, rfl⟩ := exists_of_mem_expand hx
    exact alias?_settled hnone
  settled := by
    intro x hx
    obtain ⟨a, _, rfl⟩ := exists_of_mem_expand hx
    exact settled_settled e a
  nodup := AddressList.nodup_folded_dedupe _

/-- In an expanded list no entry refers to an alias, no two entries have the same mailbox, and with
    a domain that is not empty every mailbox outside groups has one. Expanding it again leaves it
    as it is. -/
theorem expand_expand (e : Expander) (l : AddressList) :
    (∀ a ∈ e.expand l, ∀ b, ¬ e.Refers a b) ∧
    ((e.expand l).Pairwise fun a b => a.sameMailbox b = false) ∧
    (∀ host ∈ e.domain, host ≠ [] →
      ∀ a ∈ e.expand l, a.group = false → ∀ m ∈ a.mailbox, '@' ∈ m) ∧
    e.expand (e.expand l) = e.expand l := by
  have hexpanded := isExpanded_expand e l
  refine ⟨fun a ha => alias?_eq_none_iff.1 (hexpanded.names_none a ha),
    AddressList.pairwise_of_nodup_folded hexpanded.nodup, ?_, hexpanded.expand_eq⟩
  intro host hdomain hhost x hx hg m hm
  obtain ⟨a, _, rfl⟩ := exists_of_mem_expand hx
  rw [settled_group] at hg
  exact at_mem_settled hdomain hhost hg hm

end Expander
end Recipients
