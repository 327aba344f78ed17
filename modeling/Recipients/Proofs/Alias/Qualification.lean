import Recipients.Proofs.Alias.FixedPoint
import Recipients.Proofs.Alias.Recursion
import Recipients.Proofs.Alias.Unfolding
import Recipients.Proofs.Text

/-
  Where the domain comes in. A walk with a domain yields what the walk without one yields, entry by
  entry with the domain added (`expandFrom_withDomain`). It is the same to qualify at the end of every
  call, whatever inner calls have qualified already (`exists_call`, `exists_call_expand`).

  Where an expanded list is qualified afterwards, duplicates have been dropped in between. That makes no
  difference as long as equal mailboxes are qualified alike, and only a group entry with a mailbox is not:
  it gets no domain. Without such entries, expanding with a domain is expanding without one, then
  qualifying, then dropping duplicates (`expand_qualify`).
-/

namespace Recipients

namespace AddressList

/-- No group entry has a mailbox. -/
def GroupsMark (l : AddressList) : Prop := ∀ a ∈ l, a.group = true → a.mailbox = none

instance : DecidablePred GroupsMark := fun l => List.decidableBAll _ l

/-- A mailbox outside group entries gets the domain unless it has one. -/
theorem qualifyEntry_mailbox {host m : Text} {a : Address} (ha : a.group = true → a.mailbox = none)
    (hm : a.mailbox = some m) :
    (qualifyEntry host a).mailbox = some (if '@' ∈ m then m else m ++ '@' :: host) := by
  have hgroup : a.group = false := by
    by_contra hg
    rw [ha (by simpa using hg)] at hm
    cases hm
  unfold qualifyEntry
  rw [hm]
  by_cases hat : '@' ∈ m
  · simp [hgroup, hat, hm]
  · simp [hgroup, hat, Address.setMailbox]

end AddressList

namespace Expander

variable {e : Expander} {l : AddressList} {a b : Address}

/-- The same aliases and real names, with this domain or with none. -/
def withDomain (e : Expander) (domain : Option Text) : Expander := { e with domain }

/-! ## One entry -/

theorem qualify_eq_map (e : Expander) (host : Text) (l : AddressList) :
    l.qualify host = l.map (e.withDomain (some host)).qualified := by
  unfold AddressList.qualify
  cases host with
  | nil =>
    have hsame : (e.withDomain (some [])).qualified = id := rfl
    rw [hsame, List.map_id]
    rfl
  | cons c host => rfl

/-- An entry that stays gets the real name first, then the domain. -/
theorem settled_withDomain (e : Expander) (domain : Option Text) (a : Address) :
    (e.withDomain domain).settled a =
      (e.withDomain domain).qualified ((e.withDomain none).settled a) := by
  have hname : (e.withDomain domain).realName = (e.withDomain none).realName := rfl
  unfold settled
  rw [hname]
  cases (candidate? a).bind (e.withDomain none).realName <;> rfl

/-- What has the same mailbox is qualified alike, unless one of the two is a group entry. -/
theorem sameMailbox_qualified (e : Expander) (ha : a.group = true → a.mailbox = none)
    (hb : b.group = true → b.mailbox = none) (h : a.sameMailbox b = true) :
    (e.qualified a).sameMailbox (e.qualified b) = true := by
  rcases e.qualified_eq with hsame | ⟨host, hhost⟩
  · rw [hsame]
    exact h
  · obtain ⟨m, n, hm, hn, hlower⟩ := AddressList.sameMailbox_iff.1 h
    have hat : '@' ∈ m ↔ '@' ∈ n := by
      rw [← Text.at_mem_lower_iff, hlower, Text.at_mem_lower_iff]
    rw [hhost]
    refine AddressList.sameMailbox_iff.2 ⟨_, _, AddressList.qualifyEntry_mailbox ha hm,
      AddressList.qualifyEntry_mailbox hb hn, ?_⟩
    simp only [hat]
    split
    · exact hlower
    · have happend (s t : Text) : (s ++ t).lower = s.lower ++ t.lower := List.map_append
      rw [happend, happend, hlower]

/-! ## The walk -/

/-- A walk with a domain goes the way of the walk without one; what it yields has the domain. -/
theorem expandFrom_withDomain (e : Expander) (domain : Option Text) (seen : List Text)
    (l : AddressList) :
    ((e.withDomain domain).expandFrom seen l).1 =
        ((e.withDomain none).expandFrom seen l).1.map (e.withDomain domain).qualified ∧
      ((e.withDomain domain).expandFrom seen l).2.1 = ((e.withDomain none).expandFrom seen l).2 := by
  have hsame (a : Address) : (e.withDomain domain).alias? a = (e.withDomain none).alias? a := rfl
  fun_induction expandFrom (e.withDomain none) seen l with
  | case1 seen =>
    rw [expandFrom]
    exact ⟨rfl, rfl⟩
  | case2 seen a rest ha tail ih =>
    obtain ⟨hentries, hseen⟩ := ih
    rw [expandFrom_settled ((hsame a).trans ha)]
    refine ⟨?_, hseen⟩
    rw [hentries, List.map_cons, settled_withDomain]
  | case3 seen a rest b hb hs ih =>
    rw [expandFrom_seen ((hsame a).trans hb) hs]
    exact ih
  | case4 seen a rest b hb hs inner tail ihInner ihTail =>
    obtain ⟨hinner, hbetween⟩ := ihInner
    obtain ⟨htail, hafter⟩ := ihTail
    obtain ⟨hentries, hseen⟩ := expandFrom_alias ((hsame a).trans hb) hs rest
    rw [hentries, hseen, hinner, hbetween, List.map_append]
    exact ⟨congrArg _ htail, hafter⟩

/-- The walk call by call. A call goes through its list and gives local users their names only; of what
    a call for the entries of an alias has collected, all is qualified before it is taken over. -/
inductive Call (e : Expander) : (seen : List Text) → (l out : AddressList) → (seen' : List Text) → Prop
  | done (seen : List Text) : Call e seen [] [] seen
  | stays {seen seen' : List Text} {a : Address} {rest out : AddressList} (ha : e.alias? a = none)
      (hrest : Call e seen rest out seen') :
      Call e seen (a :: rest) ((e.withDomain none).settled a :: out) seen'
  | drops {seen seen' : List Text} {a : Address} {b : Alias} {rest out : AddressList}
      (hb : e.alias? a = some b) (hs : b.name.lower ∈ seen) (hrest : Call e seen rest out seen') :
      Call e seen (a :: rest) out seen'
  | copies {seen between seen' : List Text} {a : Address} {b : Alias} {rest inner out : AddressList}
      (hb : e.alias? a = some b) (hs : b.name.lower ∉ seen)
      (hinner : Call e (b.name.lower :: seen) b.addresses inner between)
      (hrest : Call e between rest out seen') :
      Call e seen (a :: rest) (inner.map e.qualified ++ out) seen'

/-- Qualifying entry by entry is qualifying what each call has collected, inner calls first. -/
theorem exists_call (e : Expander) (seen : List Text) (l : AddressList) :
    ∃ out, e.Call seen l out (e.expandFrom seen l).2 ∧
      (e.expandFrom seen l).1 = out.map e.qualified := by
  fun_induction expandFrom e seen l with
  | case1 seen => exact ⟨[], .done seen, rfl⟩
  | case2 seen a rest ha tail ih =>
    obtain ⟨out, hcall, hout⟩ := ih
    refine ⟨(e.withDomain none).settled a :: out, .stays ha hcall, ?_⟩
    rw [List.map_cons, ← hout]
    exact congrArg (· :: tail.1) (settled_withDomain e e.domain a)
  | case3 seen a rest b hb hs ih =>
    obtain ⟨out, hcall, hout⟩ := ih
    exact ⟨out, .drops hb hs hcall, hout⟩
  | case4 seen a rest b hb hs inner tail ihInner ihTail =>
    obtain ⟨collected, hinner, hcollected⟩ := ihInner
    obtain ⟨out, hrest, hout⟩ := ihTail
    refine ⟨collected.map e.qualified ++ out, .copies hb hs hinner hrest, ?_⟩
    -- What comes from inside is qualified once more here, to no effect.
    have hagain : (collected.map e.qualified).map e.qualified = collected.map e.qualified := by
      rw [List.map_map]
      exact List.map_congr_left fun x _ => qualified_qualified e x
    rw [List.map_append, hagain, ← hcollected, ← hout]

/-- Settling leaves group entries without a mailbox as they are. -/
theorem groupsMark_expandFrom (hl : l.GroupsMark)
    (haliases : ∀ b ∈ e.aliases.aliases, b.addresses.GroupsMark) (seen : List Text) :
    AddressList.GroupsMark (e.expandFrom seen l).1 := by
  have hreach {a : Address} (ha : e.Reachable l a) : a.group = true → a.mailbox = none := by
    induction ha with
    | entry h => exact hl _ h
    | member _ href hc _ => exact haliases _ (mem_of_alias? (alias?_eq_some_iff.2 href)) _ hc
  intro x hx hgroup
  obtain ⟨a, ha, -, rfl⟩ := reachable_of_mem_expandFrom hx
  rw [settled_group] at hgroup
  rw [settled_mailbox, counted, hreach ha hgroup]
  rfl

/-- An expansion is what the outermost call collects, qualified and then without duplicates. -/
theorem exists_call_expand (e : Expander) (host : Text) (l : AddressList) :
    ∃ out seen, (e.withDomain (some host)).Call [] l out seen ∧
      (e.withDomain (some host)).expand l = AddressList.dedupe (out.qualify host) := by
  obtain ⟨out, hcall, hout⟩ := (e.withDomain (some host)).exists_call [] l
  refine ⟨out, _, hcall, ?_⟩
  rw [expand, hout, qualify_eq_map e]

/-- If no group entry has a mailbox, neither in the list nor in an alias, expanding with a domain yields
    what expanding without one, qualifying and dropping duplicates yields. Every call of the first
    expansion has qualified what it has collected. -/
theorem expand_qualify (e : Expander) (host : Text) (hl : l.GroupsMark)
    (haliases : ∀ b ∈ e.aliases.aliases, b.addresses.GroupsMark) :
    (e.withDomain (some host)).expand l =
        AddressList.dedupe (((e.withDomain none).expand l).qualify host) ∧
      ∃ out seen, (e.withDomain (some host)).Call [] l out seen ∧
        (e.withDomain (some host)).expand l = AddressList.dedupe (out.qualify host) := by
  refine ⟨?_, exists_call_expand e host l⟩
  have hmark : AddressList.GroupsMark ((e.withDomain none).expandFrom [] l).1 :=
    groupsMark_expandFrom (e := e.withDomain none) hl haliases []
  have halike : ∀ a ∈ ((e.withDomain none).expandFrom [] l).1,
      ∀ b ∈ ((e.withDomain none).expandFrom [] l).1, a.sameMailbox b = true →
        ((e.withDomain (some host)).qualified a).sameMailbox
          ((e.withDomain (some host)).qualified b) = true :=
    fun a ha b hb h => sameMailbox_qualified _ (hmark a ha) (hmark b hb) h
  calc (e.withDomain (some host)).expand l
      = AddressList.dedupe (((e.withDomain none).expandFrom [] l).1.map
          (e.withDomain (some host)).qualified) := by
        rw [expand, (expandFrom_withDomain e (some host) [] l).1]
    _ = AddressList.dedupe (((e.withDomain none).expand l).map
          (e.withDomain (some host)).qualified) := (AddressList.dedupe_map_dedupe halike).symm
    _ = AddressList.dedupe (((e.withDomain none).expand l).qualify host) := by
        rw [← qualify_eq_map e]

/-- Mailboxes that only the domain makes equal: duplicates are left until the list is qualified. -/
theorem expand_qualify_duplicates :
    let e : Expander :=
      { aliases := { aliases := [
          { name := "team".toList
            addresses := [.groupMarker "t".toList, .ofMailbox "Bob".toList, .ofMailbox "work".toList,
              .groupEnd] },
          { name := "work".toList
            addresses := [.ofMailbox "team".toList, .ofMailbox "bob@x.org".toList,
              .ofMailbox "ann".toList] }] }
        realName := fun name => if name = "ann".toList then some "Ann".toList else none }
    let l : AddressList := [.ofMailbox "TEAM".toList, .ofMailbox "ANN@X.org".toList]
    l.GroupsMark ∧ (∀ b ∈ e.aliases.aliases, b.addresses.GroupsMark) ∧
      (e.withDomain none).expand l =
        [.groupMarker "t".toList, .ofMailbox "Bob".toList, .ofMailbox "bob@x.org".toList,
          { personal := some "Ann".toList, mailbox := some "ann".toList }, .groupEnd,
          .ofMailbox "ANN@X.org".toList] ∧
      (e.withDomain (some "x.org".toList)).expand l =
        [.groupMarker "t".toList, .ofMailbox "Bob@x.org".toList,
          { personal := some "Ann".toList, mailbox := some "ann@x.org".toList }, .groupEnd] ∧
      (e.withDomain (some "x.org".toList)).expand l =
        AddressList.dedupe (((e.withDomain none).expand l).qualify "x.org".toList) := by
  intro e l
  have hl : l.GroupsMark := by decide
  have haliases : ∀ b ∈ e.aliases.aliases, b.addresses.GroupsMark := by decide
  have hrun (domain : Option Text) :
      ((e.withDomain domain).walk 3 [] l).map (fun w => AddressList.dedupe w.entries) =
        some ((e.withDomain domain).expand l) :=
    map_walk l (Nat.lt_succ_self 2)
  refine ⟨hl, haliases, ?_, ?_, (expand_qualify e _ hl haliases).1⟩
  · exact Option.some.inj ((hrun none).symm.trans (by decide +kernel))
  · exact Option.some.inj ((hrun _).symm.trans (by decide +kernel))

end Expander
end Recipients
