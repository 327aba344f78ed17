import Recipients.Proofs.Alias.Index

/-
  A registry as a list of aliases. `Listing.attempt` says what a change means for a plain list in which
  no name stands twice up to ASCII case; the registry does that to its aliases, and where the list has
  no answer the change fails and leaves the registry as it was (`run_listing`).
-/

namespace Recipients

/-! ## Lists of aliases -/

namespace Listing

open AliasRegistry (Change)

variable {as before after : List Alias} {a old : Alias} {name : Text}

def has (as : List Alias) (name : Text) : Bool := as.any fun b => b.name.lower == name.lower

/-- Gives the alias with the name of `a` the addresses, comment and tags of `a`, in its place and with
    its spelling of the name. -/
def redefine (as : List Alias) (a : Alias) : List Alias :=
  as.map fun b => if b.name.lower = a.name.lower then { a with name := b.name } else b

/-- What a change makes of a list of aliases, or why it cannot be made. -/
def attempt (as : List Alias) : Change → Except AliasError (List Alias)
  | .create a => if has as a.name then .error (.taken a.name) else .ok (as ++ [a])
  | .redefine a => if has as a.name then .ok (redefine as a) else .error (.unknown a.name)
  | .define a => .ok (if has as a.name then redefine as a else as ++ [a])
  | .delete name => .ok (as.filter fun b => b.name.lower != name.lower)
  | .deleteAll => .ok []

/-- The list after changes to an empty one; a change that cannot be made leaves it. -/
def run (changes : List Change) : List Alias :=
  changes.foldl (fun as c => (attempt as c).toOption.getD as) []

theorem run_concat (changes : List Change) (c : Change) :
    run (changes ++ [c]) = (attempt (run changes) c).toOption.getD (run changes) := by
  rw [run, List.foldl_append]
  rfl

theorem has_of_find?_none (h : as.find? (·.isNamed name) = none) : has as name = false := by
  rw [← Option.not_isSome_iff_eq_none, List.isSome_find?] at h
  exact Bool.eq_false_iff.2 h

theorem has_of_find? (h : as.find? (·.isNamed name) = some old) : has as name = true := by
  have hsome : (as.find? (·.isNamed name)).isSome := by
    rw [h]
    rfl
  rwa [List.isSome_find?] at hsome

theorem attempt_of_free (h : as.find? (·.isNamed a.name) = none) :
    attempt as (.create a) = .ok (as ++ [a]) ∧
      attempt as (.redefine a) = .error (.unknown a.name) ∧
      attempt as (.define a) = .ok (as ++ [a]) := by
  simp [attempt, has_of_find?_none h]

theorem attempt_of_found (h : as.find? (·.isNamed a.name) = some old) :
    attempt as (.create a) = .error (.taken a.name) ∧
      attempt as (.redefine a) = .ok (redefine as a) ∧
      attempt as (.define a) = .ok (redefine as a) := by
  simp [attempt, has_of_find? h]

theorem lower_ne {b : Alias} (h : b.isNamed name = false) : b.name.lower ≠ name.lower := by
  intro heq
  rw [Alias.isNamed_iff.2 heq] at h
  cases h

theorem redefine_others (h : ∀ b ∈ as, b.isNamed a.name = false) : redefine as a = as := by
  have hsame : ∀ b ∈ as, (if b.name.lower = a.name.lower then { a with name := b.name } else b) = id b :=
    fun b hb => if_neg (lower_ne (h b hb))
  rw [redefine, List.map_congr_left hsame, List.map_id]

/-- One alias at most has the name. -/
theorem redefine_split (hbefore : ∀ b ∈ before, b.isNamed a.name = false)
    (hold : old.isNamed a.name = true) (hafter : ∀ b ∈ after, b.isNamed a.name = false) :
    redefine (before ++ old :: after) a = before ++ { a with name := old.name } :: after := by
  have happend (bs cs : List Alias) : redefine (bs ++ cs) a = redefine bs a ++ redefine cs a :=
    List.map_append
  have hcons : redefine (old :: after) a = { a with name := old.name } :: redefine after a := by
    rw [redefine, List.map_cons, if_pos (Alias.isNamed_iff.1 hold)]
    rfl
  rw [happend, redefine_others hbefore, hcons, redefine_others hafter]

theorem filter_split (hbefore : ∀ b ∈ before, b.isNamed name = false)
    (hold : old.isNamed name = true) (hafter : ∀ b ∈ after, b.isNamed name = false) :
    (before ++ old :: after).filter (fun b => b.name.lower != name.lower) = before ++ after := by
  have hkeep {bs : List Alias} (h : ∀ b ∈ bs, b.isNamed name = false) :
      bs.filter (fun b => b.name.lower != name.lower) = bs :=
    List.filter_eq_self.2 fun b hb => bne_iff_ne.2 (lower_ne (h b hb))
  have hdrop : (old :: after).filter (fun b => b.name.lower != name.lower) =
      after.filter fun b => b.name.lower != name.lower :=
    List.filter_cons_of_neg (by simp [Alias.isNamed_iff.1 hold])
  rw [List.filter_append, hkeep hbefore, hdrop, hkeep hafter]

end Listing

/-! ## Registries -/

namespace AliasRegistry

variable {r : AliasRegistry} {a old : Alias} {c : Change}

theorem distinct_run (changes : List Change) : Alias.Distinct (run changes).aliases := by
  obtain ⟨order, h⟩ := exists_ordered changes
  exact h.distinct.perm h.perm

theorem replace_aliases (h : Alias.Distinct r.aliases) (hfound : r.get? a.name = some old) :
    (r.replace old a).aliases = Listing.redefine r.aliases a := by
  obtain ⟨before, after, haliases, hbefore, hafter⟩ := Alias.exists_split h hfound
  have hold := Alias.isNamed_of_find? hfound
  rw [replace, haliases, Alias.set_findIdx_split hbefore hold,
    Listing.redefine_split hbefore hold hafter]

theorem delete_aliases (h : Alias.Distinct r.aliases) (name : Text) :
    (r.delete name).aliases = r.aliases.filter fun b => b.name.lower != name.lower := by
  cases hfound : r.get? name with
  | none =>
    have hfree : ∀ b ∈ r.aliases, b.name.lower ≠ name.lower := by
      intro b hb heq
      exact List.find?_eq_none.1 hfound b hb (Alias.isNamed_iff.2 heq)
    rw [delete, hfound, List.filter_eq_self.2 fun b hb => bne_iff_ne.2 (hfree b hb)]
  | some old =>
    obtain ⟨before, after, haliases, hbefore, hafter⟩ := Alias.exists_split h hfound
    have hold := Alias.isNamed_of_find? hfound
    rw [delete_of_get? hfound, haliases, Alias.eraseP_split hbefore hold,
      Listing.filter_split hbefore hold hafter]

/-- Where the list has an answer, a change does that to the aliases. -/
theorem perform_of_ok {as : List Alias} (h : Alias.Distinct r.aliases)
    (hc : Listing.attempt r.aliases c = .ok as) :
    (r.perform c).2 = none ∧ (r.apply c).aliases = as := by
  cases c with
  | create a =>
    cases hfound : r.get? a.name with
    | none =>
      rw [(Listing.attempt_of_free hfound).1] at hc
      rw [apply, (perform_of_free hfound).1]
      exact ⟨rfl, Except.ok.inj hc⟩
    | some old =>
      rw [(Listing.attempt_of_found hfound).1] at hc
      cases hc
  | redefine a =>
    cases hfound : r.get? a.name with
    | none =>
      rw [(Listing.attempt_of_free hfound).2.1] at hc
      cases hc
    | some old =>
      rw [(Listing.attempt_of_found hfound).2.1, ← replace_aliases h hfound] at hc
      rw [apply, (perform_of_found hfound).2.1]
      exact ⟨rfl, Except.ok.inj hc⟩
  | define a =>
    cases hfound : r.get? a.name with
    | none =>
      rw [(Listing.attempt_of_free hfound).2.2] at hc
      rw [apply, (perform_of_free hfound).2.2]
      exact ⟨rfl, Except.ok.inj hc⟩
    | some old =>
      rw [(Listing.attempt_of_found hfound).2.2, ← replace_aliases h hfound] at hc
      rw [apply, (perform_of_found hfound).2.2]
      exact ⟨rfl, Except.ok.inj hc⟩
  | delete name => exact ⟨rfl, (delete_aliases h name).trans (Except.ok.inj hc)⟩
  | deleteAll => exact ⟨rfl, Except.ok.inj hc⟩

/-- Where the list has no answer, a change fails for that reason, and the whole registry stays. -/
theorem perform_of_error {e : AliasError} (hc : Listing.attempt r.aliases c = .error e) :
    r.perform c = (r, some e) := by
  cases c with
  | create a =>
    cases hfound : r.get? a.name with
    | none =>
      rw [(Listing.attempt_of_free hfound).1] at hc
      cases hc
    | some old =>
      rw [(Listing.attempt_of_found hfound).1] at hc
      rw [(perform_of_found hfound).1, Except.error.inj hc]
  | redefine a =>
    cases hfound : r.get? a.name with
    | none =>
      rw [(Listing.attempt_of_free hfound).2.1] at hc
      rw [(perform_of_free hfound).2.1, Except.error.inj hc]
    | some old =>
      rw [(Listing.attempt_of_found hfound).2.1] at hc
      cases hc
  | define a | delete name | deleteAll => cases hc

theorem run_concat (changes : List Change) (c : Change) :
    run (changes ++ [c]) = (run changes).apply c := by
  rw [run, List.foldl_append]
  rfl

theorem run_aliases (changes : List Change) : (run changes).aliases = Listing.run changes := by
  induction changes using List.reverseRecOn with
  | nil => rfl
  | append_singleton changes c ih =>
    rw [run_concat, Listing.run_concat, ← ih]
    cases hc : Listing.attempt (run changes).aliases c with
    | ok as => exact (perform_of_ok (distinct_run changes) hc).2
    | error e =>
      rw [apply, perform_of_error hc]
      rfl

/-- After any changes, failed ones included, the aliases are those of the list model. One more change
    does to them what it does to a list, or fails with the error that it has there and leaves the whole
    registry. No two names are the same up to ASCII case, and a look-up yields the one alias of that
    name. -/
theorem run_listing (changes : List Change) :
    (run changes).aliases = Listing.run changes ∧
    (∀ c, (∀ as, Listing.attempt (run changes).aliases c = .ok as →
        ((run changes).perform c).2 = none ∧ (run (changes ++ [c])).aliases = as) ∧
      ∀ e, Listing.attempt (run changes).aliases c = .error e →
        ((run changes).perform c).2 = some e ∧ run (changes ++ [c]) = run changes) ∧
    (run changes).aliases.Pairwise (fun a b => a.name.lower ≠ b.name.lower) ∧
    (∀ name a, (run changes).get? name = some a ↔
      a ∈ (run changes).aliases ∧ a.name.lower = name.lower) ∧
    ∀ name l, (run changes).lookup? name = some l ↔
      ∃ a ∈ (run changes).aliases, a.name.lower = name.lower ∧ a.addresses = l := by
  have hdistinct := distinct_run changes
  have hget (name : Text) (a : Alias) : (run changes).get? name = some a ↔
      a ∈ (run changes).aliases ∧ a.name.lower = name.lower := hdistinct.get?_eq_some_iff
  refine ⟨run_aliases changes, fun c => ⟨fun as hc => ?_, fun e hc => ?_⟩, ?_, hget, fun name l => ?_⟩
  · rw [run_concat]
    exact perform_of_ok hdistinct hc
  · rw [run_concat, apply, perform_of_error hc]
    exact ⟨rfl, rfl⟩
  · exact List.pairwise_map.1 hdistinct
  · simp only [lookup?, Option.map_eq_some_iff, hget, and_assoc]

end AliasRegistry
end Recipients
