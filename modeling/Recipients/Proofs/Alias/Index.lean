import Mathlib.Data.List.Induction
import Recipients.Proofs.AddressList.Dedupe
import Recipients.Proofs.Alias.Changes

/-
  The index from mailboxes to aliases. After every series of changes it has an entry for exactly the
  mailboxes that some alias holds, and in it the names of exactly those aliases (`index_run`).

  The names stand in the order in which the aliases got the definitions that they have now. That is
  not the order of the registry, where an alias keeps its place when it is defined again. So the
  invariant (`Ordered`) compares the index with a second list of the aliases, which the history of
  the registry gives: one that is defined again goes to its end.
-/

namespace Recipients

/-! ## Entries -/

namespace MailboxIndex

/-- The entry for a mailbox with such names: none, where there are no names. -/
def entry (names : List Text) : Option (List Text) := if names.isEmpty then none else some names

theorem entry_getD (names : List Text) : (entry names).getD [] = names := by
  cases names <;> rfl

theorem entry_filter_filter (p : Text → Bool) (names : Option (List Text)) :
    (names.bind fun ns => entry (ns.filter p)).bind (fun ns => entry (ns.filter p)) =
      names.bind fun ns => entry (ns.filter p) := by
  cases names with
  | none => rfl
  | some ns =>
    show (entry (ns.filter p)).bind _ = entry (ns.filter p)
    unfold entry
    split
    · rfl
    · rename_i hne
      rw [Option.bind_some, List.filter_filter]
      simp only [Bool.and_self]
      rw [if_neg hne]

theorem lookup_filter_self (ix : MailboxIndex) (k : Text) :
    (ix.filter fun p => p.1 != k).lookup k = none := by
  rw [List.lookup_eq_none_iff]
  intro p hp
  have hne := (List.mem_filter.1 hp).2
  rw [bne_comm] at hne
  simpa using hne

theorem lookup_filter_ne (ix : MailboxIndex) {k k' : Text} (h : k' ≠ k) :
    (ix.filter fun p => p.1 != k).lookup k' = ix.lookup k' := by
  induction ix with
  | nil => rfl
  | cons p ix ih =>
    obtain ⟨key, names⟩ := p
    by_cases hk : key = k
    · have hk' : (k' == key) = false := beq_false_of_ne (hk ▸ h)
      rw [List.filter_cons_of_neg (by simp [hk]), ih, List.lookup_cons, hk']
    · rw [List.filter_cons_of_pos (by simp [hk]), List.lookup_cons, List.lookup_cons, ih]

theorem names?_congr (ix : MailboxIndex) {m n : Text} (h : m.lower = n.lower) :
    ix.names? m = ix.names? n := by
  rw [names?, names?, h]

theorem names?_put (ix : MailboxIndex) (m n : Text) (names : List Text) :
    (ix.put m names).names? n = if n.lower = m.lower then entry names else ix.names? n := by
  unfold put names? entry
  by_cases hkey : n.lower = m.lower
  · rw [hkey, if_pos rfl]
    split
    · exact lookup_filter_self ix _
    · exact List.lookup_cons_self
  · have hbeq : (n.lower == m.lower) = false := beq_false_of_ne hkey
    rw [if_neg hkey]
    split
    · exact lookup_filter_ne ix hkey
    · rw [List.lookup_cons, hbeq]
      exact lookup_filter_ne ix hkey

theorem names?_enter_of_ne (name : Text) (ix : MailboxIndex) {m n : Text} (h : n.lower ≠ m.lower) :
    (enter name ix m).names? n = ix.names? n := by
  unfold enter
  simp only
  split
  · rfl
  · rw [names?_put, if_neg h]

theorem names?_enter_of_eq (name : Text) (ix : MailboxIndex) {m n : Text} (h : n.lower = m.lower) :
    (enter name ix m).names? n =
      if ((ix.names? n).getD []).any (Text.alike name) then ix.names? n
      else some ((ix.names? n).getD [] ++ [name]) := by
  unfold enter
  simp only [names?_congr ix h]
  split
  · rw [names?_congr ix h]
  · rw [names?_put, if_pos h, entry, if_neg (by simp)]

theorem names?_leave (name : Text) (ix : MailboxIndex) (m n : Text) :
    (leave name ix m).names? n =
      if n.lower = m.lower then (ix.names? n).bind fun ns => entry (ns.filter fun k => !name.alike k)
      else ix.names? n := by
  unfold leave
  split
  · rename_i ns hns
    rw [names?_put]
    split
    · rename_i hkey
      rw [names?_congr ix hkey, hns]
      rfl
    · rfl
  · rename_i hns
    split
    · rename_i hkey
      rw [names?_congr ix hkey, hns]
      rfl
    · rfl

/-! ## Aliases -/

theorem mem_map_lower_concat {k m : Text} {ms : List Text} :
    k ∈ (ms ++ [m]).map Text.lower ↔ k ∈ ms.map Text.lower ∨ k = m.lower := by
  simp

/-- A name that is new to a mailbox is entered once, however often the mailbox occurs. -/
theorem names?_foldl_enter {name : Text} {ix : MailboxIndex} {n : Text}
    (hfresh : ∀ k ∈ (ix.names? n).getD [], name.alike k = false) (ms : List Text) :
    (ms.foldl (enter name) ix).names? n =
      if n.lower ∈ ms.map Text.lower then some ((ix.names? n).getD [] ++ [name])
      else ix.names? n := by
  induction ms using List.reverseRecOn with
  | nil => simp
  | append_singleton ms m ih =>
    rw [List.foldl_append, List.foldl_cons, List.foldl_nil]
    simp only [mem_map_lower_concat]
    by_cases hkey : n.lower = m.lower
    · rw [if_pos (Or.inr hkey), names?_enter_of_eq name _ hkey, ih]
      by_cases hmem : n.lower ∈ ms.map Text.lower
      · -- The name was entered for an earlier occurrence.
        rw [if_pos hmem, if_pos (by simp [Text.alike_refl])]
      · have hnone : ((ix.names? n).getD []).any (Text.alike name) = false := by
          rw [List.any_eq_false]
          exact fun k hk => by simp [hfresh k hk]
        rw [if_neg hmem, hnone, if_neg (by simp)]
    · rw [names?_enter_of_ne name _ hkey, ih]
      simp only [hkey, or_false]

theorem names?_foldl_leave (name : Text) (ix : MailboxIndex) (n : Text) (ms : List Text) :
    (ms.foldl (leave name) ix).names? n =
      if n.lower ∈ ms.map Text.lower then
        (ix.names? n).bind fun ns => entry (ns.filter fun k => !name.alike k)
      else ix.names? n := by
  induction ms using List.reverseRecOn with
  | nil => simp
  | append_singleton ms m ih =>
    rw [List.foldl_append, List.foldl_cons, List.foldl_nil, names?_leave, ih]
    simp only [mem_map_lower_concat]
    by_cases hkey : n.lower = m.lower
    · rw [if_pos hkey, if_pos (Or.inr hkey)]
      by_cases hmem : n.lower ∈ ms.map Text.lower
      · rw [if_pos hmem]
        exact entry_filter_filter _ _
      · rw [if_neg hmem]
    · rw [if_neg hkey]
      simp only [hkey, or_false]

/-- The aliases that hold a mailbox, up to ASCII case. -/
def holders (m : Text) (as : List Alias) : List Alias :=
  as.filter fun a => decide (m.lower ∈ a.addresses.folded)

theorem names?_add {a : Alias} {ix : MailboxIndex} {m : Text}
    (hfresh : ∀ k ∈ (ix.names? m).getD [], a.name.alike k = false) :
    (ix.add a).names? m =
      if m.lower ∈ a.addresses.folded then some ((ix.names? m).getD [] ++ [a.name])
      else ix.names? m :=
  names?_foldl_enter hfresh _

theorem names?_remove (a : Alias) (ix : MailboxIndex) (m : Text) :
    (ix.remove a).names? m =
      if m.lower ∈ a.addresses.folded then
        (ix.names? m).bind fun ns => entry (ns.filter fun k => !a.name.alike k)
      else ix.names? m :=
  names?_foldl_leave a.name ix m _

theorem mem_holders {m : Text} {as : List Alias} {a : Alias} :
    a ∈ holders m as ↔ a ∈ as ∧ m.lower ∈ a.addresses.folded := by
  simp [holders]

theorem holders_append (m : Text) (as bs : List Alias) :
    holders m (as ++ bs) = holders m as ++ holders m bs :=
  List.filter_append ..

/-- The index has for each mailbox the names of the aliases in the list that hold it, in the order
    of the list. -/
def Indexes (ix : MailboxIndex) (as : List Alias) : Prop :=
  ∀ m, ix.names? m = entry ((holders m as).map Alias.name)

theorem indexes_nil : Indexes [] [] := fun _ => rfl

variable {ix : MailboxIndex} {as before after : List Alias} {a old : Alias}

theorem Indexes.add (h : ix.Indexes as) (hfresh : ∀ b ∈ as, b.isNamed a.name = false) :
    (ix.add a).Indexes (as ++ [a]) := by
  intro m
  have hnew : ∀ k ∈ (ix.names? m).getD [], a.name.alike k = false := by
    rw [h m, entry_getD]
    intro k hk
    obtain ⟨b, hb, rfl⟩ := List.mem_map.1 hk
    rw [Text.alike_comm]
    exact hfresh b (mem_holders.1 hb).1
  rw [names?_add hnew, h m, entry_getD, holders_append, List.map_append]
  by_cases hm : m.lower ∈ a.addresses.folded
  · have hself : holders m [a] = [a] := by simp [holders, hm]
    rw [if_pos hm, hself, entry, if_neg (by simp)]
    rfl
  · have hself : holders m [a] = [] := by simp [holders, hm]
    rw [if_neg hm, hself, List.map_nil, List.append_nil]

theorem Indexes.remove (h : ix.Indexes (before ++ old :: after))
    (hbefore : ∀ b ∈ before, b.isNamed old.name = false)
    (hafter : ∀ b ∈ after, b.isNamed old.name = false) : (ix.remove old).Indexes (before ++ after) := by
  intro m
  have hkeep {bs : List Alias} (hbs : ∀ b ∈ bs, b.isNamed old.name = false) :
      ((holders m bs).map Alias.name).filter (fun k => !old.name.alike k) =
        (holders m bs).map Alias.name := by
    rw [List.filter_eq_self]
    intro k hk
    obtain ⟨b, hb, rfl⟩ := List.mem_map.1 hk
    rw [Text.alike_comm, Bool.not_eq_true']
    exact hbs b (mem_holders.1 hb).1
  have hself : old.name.alike old.name = true := Text.alike_refl _
  have hsplit : holders m (before ++ old :: after) =
      holders m before ++ (holders m [old] ++ holders m after) := by
    rw [← holders_append, ← holders_append]
    rfl
  rw [names?_remove, h m, hsplit, holders_append]
  by_cases hm : m.lower ∈ old.addresses.folded
  · have hold : holders m [old] = [old] := by simp [holders, hm]
    have hne : ((holders m before ++ ([old] ++ holders m after)).map Alias.name).isEmpty = false := by
      simp
    rw [if_pos hm, hold, entry, hne, if_neg (by simp), Option.bind_some, List.map_append,
      List.map_append, List.map_append, List.filter_append, List.filter_append, hkeep hbefore,
      hkeep hafter]
    simp [hself]
  · have hold : holders m [old] = [] := by simp [holders, hm]
    rw [if_neg hm, hold, List.nil_append]

end MailboxIndex

/-! ## Registries -/

namespace AliasRegistry

/-- The names in the order of the latest definitions, after one more event. -/
def settle (order : List Text) : AliasEvent → List Text
  | .added n => order ++ [n]
  | .changed n => order.filter (· != n) ++ [n]
  | .deleted n => order.filter (· != n)

/-- The names of the aliases in the order in which they got the definitions that they have. -/
def definitionOrder (r : AliasRegistry) : List Text := r.history.foldl settle []

/-- The aliases of a registry in the order of their latest definitions; the index follows it. -/
structure Ordered (r : AliasRegistry) (order : List Alias) : Prop where
  perm : order.Perm r.aliases
  distinct : Alias.Distinct order
  names : order.map Alias.name = r.definitionOrder
  index : r.index.Indexes order

variable {r : AliasRegistry} {order : List Alias} {a old : Alias} {name : Text}

theorem Ordered.find? (h : r.Ordered order) (name : Text) :
    order.find? (·.isNamed name) = r.get? name := by
  have hdistinct := h.distinct.perm h.perm
  apply Option.ext
  intro a
  rw [AliasRegistry.get?, h.distinct.find?_eq_some_iff, hdistinct.find?_eq_some_iff, h.perm.mem_iff]

/-- The alias of a name, in both orders of the aliases. -/
theorem Ordered.split (h : r.Ordered order) (hfound : r.get? name = some old) :
    ∃ before after before' after', order = before ++ old :: after ∧
      (∀ b ∈ before ++ after, b.isNamed name = false) ∧
      r.aliases = before' ++ old :: after' ∧ (∀ b ∈ before', b.isNamed name = false) ∧
      (before ++ after).Perm (before' ++ after') := by
  have hdistinct := h.distinct.perm h.perm
  obtain ⟨before, after, horder, hbefore, hafter⟩ :=
    Alias.exists_split h.distinct ((h.find? name).trans hfound)
  obtain ⟨before', after', haliases, hbefore', _⟩ := Alias.exists_split hdistinct hfound
  refine ⟨before, after, before', after', horder, ?_, haliases, hbefore', ?_⟩
  · exact List.forall_mem_append.2 ⟨hbefore, hafter⟩
  · have hperm := h.perm
    rw [horder, haliases] at hperm
    exact (List.perm_middle.symm.trans (hperm.trans List.perm_middle)).cons_inv

theorem filter_names {bs : List Alias} (h : ∀ b ∈ bs, b.isNamed name = false) :
    (bs.map Alias.name).filter (· != name) = bs.map Alias.name := by
  rw [List.filter_eq_self]
  intro k hk
  obtain ⟨b, hb, rfl⟩ := List.mem_map.1 hk
  have hb' := h b hb
  rw [bne_iff_ne]
  rintro rfl
  rw [Alias.isNamed, Text.alike_refl] at hb'
  cases hb'

theorem filter_names_split {before after : List Alias}
    (h : ∀ b ∈ before ++ after, b.isNamed old.name = false) :
    ((before ++ old :: after).map Alias.name).filter (· != old.name) =
      (before ++ after).map Alias.name := by
  obtain ⟨hbefore, hafter⟩ := List.forall_mem_append.1 h
  rw [List.map_append, List.map_cons, List.filter_append, filter_names hbefore,
    List.filter_cons_of_neg (by simp), filter_names hafter, List.map_append]

/-- Found under one spelling of its name, an alias differs from the others in the other spelling. -/
theorem isNamed_congr (h : old.isNamed name = true) (b : Alias) :
    b.isNamed old.name = b.isNamed name := by
  rw [Alias.isNamed, Alias.isNamed, Text.alike, Text.alike, Alias.isNamed_iff.1 h]

theorem Ordered.append (h : r.Ordered order) (hfree : r.get? a.name = none) :
    (r.append a).Ordered (order ++ [a]) := by
  have hfresh : ∀ b ∈ order, b.isNamed a.name = false := by
    have := List.find?_eq_none.1 ((h.find? a.name).trans hfree)
    exact fun b hb => by simpa using this b hb
  refine ⟨h.perm.append_right [a], ?_, ?_, h.index.add hfresh⟩
  · rw [Alias.Distinct, List.map_append, List.nodup_append]
    refine ⟨h.distinct, by simp, ?_⟩
    intro k hk k' hk' heq
    obtain ⟨b, hb, rfl⟩ := List.mem_map.1 hk
    rw [List.map_singleton, List.mem_singleton] at hk'
    have hb' := hfresh b hb
    rw [Alias.isNamed, Text.alike_iff.2 (heq.trans hk')] at hb'
    cases hb'
  · rw [definitionOrder, AliasRegistry.append, List.foldl_append, List.map_append, h.names]
    rfl

/-- The alias defined again goes to the end of the order, its place in the registry stays. -/
theorem Ordered.replace (h : r.Ordered order) (hfound : r.get? a.name = some old) :
    ∃ order', (r.replace old a).Ordered order' := by
  obtain ⟨before, after, before', after', rfl, hothers, haliases, hbefore', hperm⟩ := h.split hfound
  have hold := Alias.isNamed_of_find? hfound
  have hothers' : ∀ b ∈ before ++ after, b.isNamed old.name = false :=
    fun b hb => (isNamed_congr hold b).trans (hothers b hb)
  have hsplit := List.forall_mem_append.1 hothers'
  let new : Alias := { a with name := old.name }
  refine ⟨before ++ after ++ [new], ?_, ?_, ?_, ?_⟩
  · show (before ++ after ++ [new]).Perm (r.aliases.set _ new)
    rw [haliases, Alias.set_findIdx_split hbefore' hold]
    exact (List.perm_append_singleton _ _).trans ((hperm.cons new).trans List.perm_middle.symm)
  · have hnames : (before ++ after ++ [new]).Perm (before ++ new :: after) :=
      (List.perm_append_singleton _ _).trans List.perm_middle.symm
    refine Alias.Distinct.perm ?_ hnames.symm
    have hdistinct := h.distinct
    rw [Alias.Distinct, List.map_append, List.map_cons] at hdistinct ⊢
    exact hdistinct
  · rw [definitionOrder, AliasRegistry.replace, List.foldl_append]
    show _ = settle r.definitionOrder (.changed old.name)
    rw [← h.names, settle, filter_names_split hothers', List.map_append]
    rfl
  · exact (h.index.remove hsplit.1 hsplit.2).add hothers'

theorem Ordered.delete (h : r.Ordered order) (hfound : r.get? name = some old) :
    ∃ order', (r.delete name).Ordered order' := by
  obtain ⟨before, after, before', after', rfl, hothers, haliases, hbefore', hperm⟩ := h.split hfound
  have hold := Alias.isNamed_of_find? hfound
  have hothers' : ∀ b ∈ before ++ after, b.isNamed old.name = false :=
    fun b hb => (isNamed_congr hold b).trans (hothers b hb)
  have hsplit := List.forall_mem_append.1 hothers'
  rw [delete_of_get? hfound]
  refine ⟨before ++ after, ?_, ?_, ?_, h.index.remove hsplit.1 hsplit.2⟩
  · show (before ++ after).Perm (r.aliases.eraseP _)
    rw [haliases, Alias.eraseP_split hbefore' hold]
    exact hperm
  · have hsub : (before ++ after).Sublist (before ++ old :: after) :=
      (List.Sublist.refl before).append (List.sublist_cons_self old after)
    exact h.distinct.sublist (hsub.map _)
  · rw [definitionOrder, List.foldl_append]
    show _ = settle r.definitionOrder (.deleted old.name)
    rw [← h.names, settle, filter_names_split hothers']

theorem mem_foldl_deleted {ns ks : List Text} {k : Text}
    (hk : k ∈ (ns.map AliasEvent.deleted).foldl settle ks) : k ∈ ks ∧ k ∉ ns := by
  induction ns generalizing ks with
  | nil => exact ⟨hk, List.not_mem_nil⟩
  | cons n ns ih =>
    obtain ⟨hmem, hnot⟩ := ih hk
    rw [settle, List.mem_filter, bne_iff_ne] at hmem
    exact ⟨hmem.1, List.not_mem_cons_of_ne_of_not_mem hmem.2 hnot⟩

theorem Ordered.deleteAll (h : r.Ordered order) : r.deleteAll.Ordered [] := by
  refine ⟨List.Perm.refl _, List.nodup_nil, ?_, MailboxIndex.indexes_nil⟩
  have hevents : r.aliases.map (fun a => AliasEvent.deleted a.name) =
      (r.aliases.map Alias.name).map AliasEvent.deleted := by
    rw [List.map_map]
    rfl
  rw [definitionOrder, AliasRegistry.deleteAll, List.foldl_append, hevents, List.map_nil, eq_comm,
    List.eq_nil_iff_forall_not_mem]
  intro k hk
  obtain ⟨hmem, hnot⟩ := mem_foldl_deleted hk
  have hmem' : k ∈ r.definitionOrder := hmem
  rw [← h.names] at hmem'
  exact hnot ((h.perm.map Alias.name).mem_iff.1 hmem')

/-- Every change keeps the index in step with the aliases. -/
theorem exists_ordered (changes : List Change) : ∃ order, (run changes).Ordered order := by
  refine run_induction (P := fun r => ∃ order, r.Ordered order) ?_ ?_ changes
  · exact ⟨[], List.Perm.refl _, List.nodup_nil, rfl, MailboxIndex.indexes_nil⟩
  · rintro r c ⟨order, h⟩
    rcases apply_cases r c with hc | ⟨a, hfree, hc⟩ | ⟨old, a, hfound, hc⟩ | ⟨name, old, hfound, hc⟩ | hc
    all_goals rw [hc]
    · exact ⟨order, h⟩
    · exact ⟨_, h.append hfree⟩
    · exact h.replace hfound
    · exact h.delete hfound
    · exact ⟨[], h.deleteAll⟩

/-! ## The holder of a mailbox -/

/-- The lookup by mailbox finds the first alias that holds it in the order of the latest
    definitions. -/
theorem Ordered.holder? (h : r.Ordered order) (x : Address) :
    r.holder? x = order.find? (·.addresses.search x) := by
  cases hx : x.mailbox with
  | none =>
    have hnone (b : Alias) : b.addresses.search x = false := by
      rw [Bool.eq_false_iff, ne_eq, AddressList.search_iff]
      simp [hx]
    rw [AliasRegistry.holder?, hx, Option.bind_none, eq_comm, List.find?_eq_none]
    exact fun b _ => by simp [hnone b]
  | some m =>
    have hsearch (b : Alias) : b.addresses.search x = decide (m.lower ∈ b.addresses.folded) := by
      rw [Bool.eq_iff_iff, AddressList.search_iff, decide_eq_true_iff]
      simp [hx]
    have hfind : order.find? (·.addresses.search x) = (MailboxIndex.holders m order).head? := by
      rw [MailboxIndex.holders, List.head?_filter]
      simp only [hsearch]
    rw [AliasRegistry.holder?, hx, Option.bind_some, h.index m, hfind]
    cases hheld : MailboxIndex.holders m order with
    | nil => rfl
    | cons b bs =>
      have hb : b ∈ order := (MailboxIndex.mem_holders.1 (hheld ▸ List.mem_cons_self)).1
      show r.get? b.name = some b
      rw [← h.find?, h.distinct.find?_eq_some_iff]
      exact ⟨hb, Text.alike_refl _⟩

/-- After any changes the index has an entry for a mailbox exactly if an alias holds the mailbox, and
    in it, each once and as they are spelled, the names of exactly these aliases. So a lookup finds an
    alias exactly if there is one for the mailbox, and the alias that it finds is one. -/
theorem index_run (changes : List Change) :
    (∀ m, ((run changes).index.names? m).isSome ↔
      ∃ a ∈ (run changes).aliases, m.lower ∈ a.addresses.folded) ∧
    (∀ m, ((((run changes).index.names? m).getD []).map Text.lower).Nodup ∧
      ∀ n, n ∈ ((run changes).index.names? m).getD [] ↔
        ∃ a ∈ (run changes).aliases, a.name = n ∧ m.lower ∈ a.addresses.folded) ∧
    (∀ x, ((run changes).holder? x).isSome ↔
      ∃ a ∈ (run changes).aliases, a.addresses.search x = true) ∧
    ∀ x, ∀ b ∈ (run changes).holder? x,
      b ∈ (run changes).aliases ∧ b.addresses.search x = true := by
  obtain ⟨order, h⟩ := exists_ordered changes
  have hheld (m : Text) (a : Alias) : a ∈ MailboxIndex.holders m order ↔
      a ∈ (run changes).aliases ∧ m.lower ∈ a.addresses.folded := by
    rw [MailboxIndex.mem_holders, h.perm.mem_iff]
  refine ⟨fun m => ?_, fun m => ⟨?_, fun n => ?_⟩, fun x => ?_, fun x b hb => ?_⟩
  · rw [h.index m, MailboxIndex.entry]
    simp only [← hheld]
    cases hm : MailboxIndex.holders m order <;> simp
  · rw [h.index m, MailboxIndex.entry_getD, List.map_map]
    exact h.distinct.sublist (List.filter_sublist.map _)
  · rw [h.index m, MailboxIndex.entry_getD, List.mem_map]
    simp only [hheld]
    constructor
    · rintro ⟨a, ⟨ha, hm⟩, hn⟩
      exact ⟨a, ha, hn, hm⟩
    · rintro ⟨a, ha, hn, hm⟩
      exact ⟨a, ⟨ha, hm⟩, hn⟩
  · rw [h.holder? x, List.find?_isSome]
    simp only [h.perm.mem_iff]
  · rw [h.holder? x] at hb
    have hsearch := List.find?_some (p := fun a : Alias => a.addresses.search x) hb
    exact ⟨h.perm.mem_iff.1 (List.mem_of_find?_eq_some hb), hsearch⟩

end AliasRegistry
end Recipients
