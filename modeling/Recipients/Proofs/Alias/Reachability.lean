import Recipients.Alias.Expansion
import Recipients.Proofs.AddressList.Dedupe
import Recipients.Proofs.Alias.Changes

/-
  Which entries an expansion yields: those that can be reached from the list through the aliases
  it names and that name no alias themselves (`folded_expand`).

  All branches of the walk share one record of the aliases seen, so an alias that is dropped in
  one place is expanded, or being expanded, in another. `Explored` says what holds of a finished
  walk nevertheless: every entry of its list, and every member of an alias that was first seen
  during it, is in the output or names an alias that has been seen by the end.
-/

namespace Recipients
namespace Expander

/-! ## References and reachable entries -/

/-- An entry refers to the alias that its mailbox names, if it is no group entry, has no personal
    name and its mailbox has no domain. -/
def Refers (e : Expander) (a : Address) (b : Alias) : Prop :=
  a.group = false ∧ a.personal = none ∧
    ∃ m, a.mailbox = some m ∧ '@' ∉ m ∧ e.aliases.get? m = some b

/-- In a registry where no name stands twice, that is the one alias with the name. -/
theorem refers_iff {e : Expander} (h : Alias.Distinct e.aliases.aliases) {a : Address} {b : Alias} :
    e.Refers a b ↔ a.group = false ∧ a.personal = none ∧
      ∃ m, a.mailbox = some m ∧ '@' ∉ m ∧ b ∈ e.aliases.aliases ∧ b.name.lower = m.lower := by
  simp only [Refers, h.get?_eq_some_iff]

/-- The entries of a list, and of the aliases that reachable entries refer to. -/
inductive Reachable (e : Expander) (l : AddressList) : Address → Prop
  | entry {a : Address} (h : a ∈ l) : Reachable e l a
  | member {a c : Address} {b : Alias} (h : Reachable e l a) (href : e.Refers a b)
      (hc : c ∈ b.addresses) : Reachable e l c

/-- The mailbox of an entry as it counts in the end: a local one outside groups has the domain, if
    there is one and it is not empty. -/
def counted (e : Expander) (a : Address) : Option Text :=
  a.mailbox.map fun m =>
    match e.domain with
    | some d => if d ≠ [] ∧ a.group = false ∧ '@' ∉ m then m ++ '@' :: d else m
    | none => m

theorem candidate?_eq_some_iff {a : Address} {m : Text} :
    candidate? a = some m ↔
      a.group = false ∧ a.personal = none ∧ a.mailbox = some m ∧ '@' ∉ m := by
  unfold candidate?
  cases hg : a.group <;> cases hp : a.personal <;> simp

theorem alias?_eq_some_iff {e : Expander} {a : Address} {b : Alias} :
    e.alias? a = some b ↔ e.Refers a b := by
  unfold alias? Refers
  rw [Option.bind_eq_some_iff]
  constructor
  · rintro ⟨m, hm, hb⟩
    obtain ⟨hg, hp, hmail, hat⟩ := candidate?_eq_some_iff.1 hm
    exact ⟨hg, hp, m, hmail, hat, hb⟩
  · rintro ⟨hg, hp, m, hmail, hat, hb⟩
    exact ⟨m, candidate?_eq_some_iff.2 ⟨hg, hp, hmail, hat⟩, hb⟩

theorem alias?_eq_none_iff {e : Expander} {a : Address} :
    e.alias? a = none ↔ ∀ b, ¬ e.Refers a b := by
  rw [Option.eq_none_iff_forall_ne_some]
  exact forall_congr' fun b => not_congr alias?_eq_some_iff

theorem Reachable.trans {e : Expander} {l l' : AddressList} {c : Address}
    (hl : ∀ a ∈ l', e.Reachable l a) (h : e.Reachable l' c) : e.Reachable l c := by
  induction h with
  | entry h => exact hl _ h
  | member _ href hc ih => exact .member ih href hc

theorem qualified_mailbox (e : Expander) (a : Address) : (e.qualified a).mailbox = e.counted a := by
  unfold qualified counted
  split
  · rename_i d host hd
    simp only [AddressList.qualifyEntry, hd]
    cases hm : a.mailbox with
    | none => simp [hm]
    | some m => by_cases hg : a.group = true <;> by_cases hat : '@' ∈ m <;> simp_all [Address.setMailbox]
  · rename_i hd
    rcases h : e.domain with _ | _ | ⟨d, host⟩
    · simp
    · simp
    · exact absurd h (hd d host)

theorem settled_mailbox (e : Expander) (a : Address) : (e.settled a).mailbox = e.counted a := by
  unfold settled
  split
  · rw [qualified_mailbox]
    rfl
  · exact qualified_mailbox e a

/-! ## What the registry finds depends on a name up to ASCII case -/

theorem get?_congr (r : AliasRegistry) {n n' : Text} (h : n.lower = n'.lower) :
    r.get? n = r.get? n' := by
  unfold AliasRegistry.get? Alias.isNamed Text.alike
  rw [h]

theorem name_of_get? {r : AliasRegistry} {n : Text} {b : Alias} (h : r.get? n = some b) :
    b.name.lower = n.lower := by
  have := List.find?_some h
  rwa [Alias.isNamed, Text.alike_iff] at this

theorem get?_name_of_alias? {e : Expander} {a : Address} {b : Alias} (h : e.alias? a = some b) :
    e.aliases.get? b.name = some b := by
  obtain ⟨_, _, m, _, _, hb⟩ := alias?_eq_some_iff.1 h
  rw [get?_congr e.aliases (name_of_get? hb)]
  exact hb

/-! ## Soundness -/

theorem reachable_of_mem_expandFrom {e : Expander} {seen : List Text} {l : AddressList} {x : Address}
    (h : x ∈ (e.expandFrom seen l).1) :
    ∃ a, e.Reachable l a ∧ e.alias? a = none ∧ x = e.settled a := by
  have later (a : Address) (rest : AddressList) : ∀ c ∈ rest, e.Reachable (a :: rest) c :=
    fun _ hc => .entry (List.mem_cons_of_mem a hc)
  fun_induction expandFrom e seen l with
  | case1 => cases h
  | case2 seen a rest ha tail ih =>
    rcases List.mem_cons.1 h with rfl | h
    · exact ⟨a, .entry List.mem_cons_self, ha, rfl⟩
    · obtain ⟨c, hc, hnone, hx⟩ := ih h
      exact ⟨c, hc.trans (later a rest), hnone, hx⟩
  | case3 seen a rest b hb hs ih =>
    obtain ⟨c, hc, hnone, hx⟩ := ih h
    exact ⟨c, hc.trans (later a rest), hnone, hx⟩
  | case4 seen a rest b hb hs inner tail ihInner ihTail =>
    rcases List.mem_append.1 h with h | h
    · obtain ⟨c, hc, hnone, hx⟩ := ihInner h
      have href := alias?_eq_some_iff.1 hb
      exact ⟨c, hc.trans fun d hd => .member (.entry List.mem_cons_self) href hd, hnone, hx⟩
    · obtain ⟨c, hc, hnone, hx⟩ := ihTail h
      exact ⟨c, hc.trans (later a rest), hnone, hx⟩

/-! ## Completeness -/

/-- An entry is dealt with when it is in the output or names an alias that has been seen. -/
def Covered (e : Expander) (out : AddressList) (seen : List Text) (a : Address) : Prop :=
  match e.alias? a with
  | none => e.settled a ∈ out
  | some b => b.name.lower ∈ seen

theorem covered_iff_mem {e : Expander} {out : AddressList} {seen : List Text} {a : Address}
    (h : e.alias? a = none) : e.Covered out seen a ↔ e.settled a ∈ out := by
  unfold Covered
  rw [h]

theorem covered_iff_seen {e : Expander} {out : AddressList} {seen : List Text} {a : Address}
    {b : Alias} (h : e.alias? a = some b) : e.Covered out seen a ↔ b.name.lower ∈ seen := by
  unfold Covered
  rw [h]

theorem Covered.mono {e : Expander} {out out' : AddressList} {seen seen' : List Text} {a : Address}
    (h : e.Covered out seen a) (hout : out ⊆ out') (hseen : seen ⊆ seen') :
    e.Covered out' seen' a := by
  unfold Covered at *
  split at h
  · exact hout h
  · exact hseen h

/-- What a walk over `l` that began with the aliases `seen` leaves: nothing in `l`, and nothing in
    an alias that was not seen before and is now, has been passed over. -/
structure Explored (e : Expander) (seen : List Text) (l out : AddressList) (seen' : List Text) :
    Prop where
  entries : ∀ a ∈ l, e.Covered out seen' a
  members : ∀ b, e.aliases.get? b.name = some b → b.name.lower ∉ seen → b.name.lower ∈ seen' →
    ∀ c ∈ b.addresses, e.Covered out seen' c

theorem expandFrom_explored (e : Expander) (seen : List Text) (l : AddressList) :
    e.Explored seen l (e.expandFrom seen l).1 (e.expandFrom seen l).2 := by
  fun_induction expandFrom e seen l with
  | case1 seen => exact ⟨fun _ ha => (nomatch ha), fun _ _ hold hnew => absurd hnew hold⟩
  | case2 seen a rest ha tail ih =>
    have grow : tail.1 ⊆ e.settled a :: tail.1 := List.subset_cons_self _ _
    refine ⟨?_, fun b hb hold hnew c hc => ?_⟩
    · intro c hc
      rcases List.mem_cons.1 hc with rfl | hc
      · exact (covered_iff_mem ha).2 List.mem_cons_self
      · exact (ih.entries c hc).mono grow (List.Subset.refl _)
    · exact (ih.members b hb hold hnew c hc).mono grow (List.Subset.refl _)
  | case3 seen a rest b hb hs ih =>
    refine ⟨?_, ih.members⟩
    intro c hc
    rcases List.mem_cons.1 hc with rfl | hc
    · exact (covered_iff_seen hb).2 ((e.expandFrom seen rest).2.2 hs)
    · exact ih.entries c hc
  | case4 seen a rest b hb hs inner tail ihInner ihTail =>
    have growInner : inner.1 ⊆ inner.1 ++ tail.1 := List.subset_append_left _ _
    have growTail : tail.1 ⊆ inner.1 ++ tail.1 := List.subset_append_right _ _
    have hbseen : b.name.lower ∈ inner.2.1 := inner.2.2 List.mem_cons_self
    refine ⟨?_, ?_⟩
    · intro c hc
      rcases List.mem_cons.1 hc with rfl | hc
      · exact (covered_iff_seen hb).2 (tail.2.2 hbseen)
      · exact (ihTail.entries c hc).mono growTail (List.Subset.refl _)
    · intro b' hb' hold hnew c hc
      -- The alias was first seen after the members of `b`, among them, or it is `b` itself.
      by_cases hinner : b'.name.lower ∈ inner.2.1
      · by_cases hsame : b'.name.lower = b.name.lower
        · have heq : b' = b := by
            rw [get?_congr e.aliases hsame, get?_name_of_alias? hb] at hb'
            exact (Option.some.inj hb').symm
          subst heq
          exact (ihInner.entries c hc).mono growInner tail.2.2
        · have hold' : b'.name.lower ∉ b.name.lower :: seen := by
            rw [List.mem_cons, not_or]
            exact ⟨hsame, hold⟩
          exact (ihInner.members b' hb' hold' hinner c hc).mono growInner tail.2.2
      · exact (ihTail.members b' hb' hinner hnew c hc).mono growTail (List.Subset.refl _)

/-- A walk that begins with nothing seen deals with every reachable entry. -/
theorem covered_of_reachable {e : Expander} {l : AddressList} {a : Address}
    (h : e.Reachable l a) : e.Covered (e.expandFrom [] l).1 (e.expandFrom [] l).2 a := by
  have hrun := expandFrom_explored e [] l
  induction h with
  | entry h => exact hrun.entries _ h
  | @member a c b _ href hc ih =>
    have hb := alias?_eq_some_iff.2 href
    have hseen := (covered_iff_seen hb).1 ih
    exact hrun.members b (get?_name_of_alias? hb) List.not_mem_nil hseen c hc

theorem mem_expandFrom_nil_iff {e : Expander} {l : AddressList} {x : Address} :
    x ∈ (e.expandFrom [] l).1 ↔
      ∃ a, e.Reachable l a ∧ (∀ b, ¬ e.Refers a b) ∧ x = e.settled a := by
  constructor
  · intro h
    obtain ⟨a, ha, hnone, hx⟩ := reachable_of_mem_expandFrom h
    exact ⟨a, ha, alias?_eq_none_iff.1 hnone, hx⟩
  · rintro ⟨a, ha, hnone, rfl⟩
    exact (covered_iff_mem (alias?_eq_none_iff.2 hnone)).1 (covered_of_reachable ha)

/-! ## The mailboxes of an expansion -/

/-- Expansion yields the mailboxes of the reachable entries that refer to no alias, each once. -/
theorem folded_expand (e : Expander) (l : AddressList) :
    (∀ k, k ∈ (e.expand l).folded ↔
      ∃ a, e.Reachable l a ∧ (∀ b, ¬ e.Refers a b) ∧ ∃ m, e.counted a = some m ∧ m.lower = k) ∧
    (e.expand l).folded.Nodup := by
  refine ⟨?_, AddressList.nodup_folded_dedupe _⟩
  intro k
  unfold expand
  rw [AddressList.mem_folded_dedupe, AddressList.mem_folded]
  constructor
  · rintro ⟨x, hx, m, hm, hk⟩
    obtain ⟨a, ha, hnone, rfl⟩ := mem_expandFrom_nil_iff.1 hx
    rw [settled_mailbox] at hm
    exact ⟨a, ha, hnone, m, hm, hk⟩
  · rintro ⟨a, ha, hnone, m, hm, hk⟩
    refine ⟨e.settled a, mem_expandFrom_nil_iff.2 ⟨a, ha, hnone, rfl⟩, m, ?_, hk⟩
    rw [settled_mailbox]
    exact hm

end Expander
end Recipients
