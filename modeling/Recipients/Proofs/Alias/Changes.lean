import Mathlib.Data.List.Nodup
import Recipients.Alias.Registry

/-
  A registry as it comes about: `AliasRegistry.run` makes a series of changes to an empty one and goes
  on from what each of them leaves, also where it fails. `apply_cases` says all that one change can do.

  Names stay apart up to ASCII case (`Distinct`), so an alias that a change finds by its name is the
  only one of that name; `exists_split` is the form in which the proofs use this.
-/

namespace Recipients
namespace AliasRegistry

inductive Change where
  | create (a : Alias)
  | redefine (a : Alias)
  | define (a : Alias)
  | delete (name : Text)
  | deleteAll

/-- What a change leaves, and why it failed. -/
def perform (r : AliasRegistry) : Change → AliasRegistry × Option AliasError
  | .create a => r.create a
  | .redefine a => r.redefine a
  | .define a => (r.define a, none)
  | .delete name => (r.delete name, none)
  | .deleteAll => (r.deleteAll, none)

/-- The registry after a change. -/
def apply (r : AliasRegistry) (c : Change) : AliasRegistry := (r.perform c).1

/-- The registry after changes to an empty one. -/
def run (changes : List Change) : AliasRegistry := changes.foldl apply {}

/-- A property that the empty registry has and that every change keeps holds after every series of
    changes. -/
theorem run_induction {P : AliasRegistry → Prop} (empty : P {})
    (change : ∀ r c, P r → P (r.apply c)) (changes : List Change) : P (run changes) := by
  unfold run
  suffices h : ∀ r, P r → P (changes.foldl apply r) from h {} empty
  induction changes with
  | nil => exact fun r hr => hr
  | cons c cs ih => exact fun r hr => ih _ (change r c hr)

theorem delete_of_get? {r : AliasRegistry} {name : Text} {old : Alias} (h : r.get? name = some old) :
    r.delete name =
      { aliases := r.aliases.eraseP (·.isNamed name)
        index := r.index.remove old
        history := r.history ++ [.deleted old.name] } := by
  rw [delete, h]

section Named

variable {r : AliasRegistry} {a old : Alias}

/-- The changes that give an alias under a name, where the name is free. -/
theorem perform_of_free (h : r.get? a.name = none) :
    r.perform (.create a) = (r.append a, none) ∧
      r.perform (.redefine a) = (r, some (.unknown a.name)) ∧
      r.perform (.define a) = (r.append a, none) := by
  simp [perform, create, redefine, define, h]

/-- The changes that give an alias under a name, where an alias has the name. -/
theorem perform_of_found (h : r.get? a.name = some old) :
    r.perform (.create a) = (r, some (.taken a.name)) ∧
      r.perform (.redefine a) = (r.replace old a, none) ∧
      r.perform (.define a) = (r.replace old a, none) := by
  simp [perform, create, redefine, define, h]

theorem apply_of_free (h : r.get? a.name = none) :
    r.apply (.create a) = r.append a ∧ r.apply (.redefine a) = r ∧
      r.apply (.define a) = r.append a := by
  simp [apply, perform_of_free h]

theorem apply_of_found (h : r.get? a.name = some old) :
    r.apply (.create a) = r ∧ r.apply (.redefine a) = r.replace old a ∧
      r.apply (.define a) = r.replace old a := by
  simp [apply, perform_of_found h]

theorem get?_append (h : r.get? a.name = none) : (r.append a).get? a.name = some a := by
  rw [get?] at h
  rw [get?, append, List.find?_append, h, Option.none_or, List.find?_singleton, Alias.isNamed,
    Text.alike_refl, if_pos rfl]

/-- What a definition makes known under a name that was free has that name. -/
theorem alike_of_get?_define {c : Alias} {name : Text} (h : r.get? name = none)
    (hfound : (r.define a).get? name = some c) : a.name.alike name = true := by
  rw [get?, List.find?_eq_none] at h
  rw [get?] at hfound
  have hnamed := List.find?_some hfound
  have hmem := List.mem_of_find?_eq_some hfound
  unfold define at hmem
  split at hmem
  · rename_i old hold
    rcases List.mem_or_eq_of_mem_set hmem with hmem | rfl
    · exact absurd hnamed (h c hmem)
    · exact absurd hnamed (h old (List.mem_of_find?_eq_some hold))
  · rcases List.mem_append.1 hmem with hmem | hmem
    · exact absurd hnamed (h c hmem)
    · rwa [List.mem_singleton.1 hmem] at hnamed

theorem apply_delete_of_free {name : Text} (h : r.get? name = none) : r.apply (.delete name) = r := by
  rw [apply, perform, delete, h]

/-- A change that fails leaves the registry. -/
theorem apply_of_error {c : Change} {e : AliasError} (h : (r.perform c).2 = some e) :
    r.apply c = r := by
  cases c with
  | create a =>
    cases hfound : r.get? a.name with
    | some old => exact (apply_of_found hfound).1
    | none =>
      rw [(perform_of_free hfound).1] at h
      cases h
  | redefine a =>
    cases hfound : r.get? a.name with
    | some old =>
      rw [(perform_of_found hfound).2.1] at h
      cases h
    | none => exact (apply_of_free hfound).2.1
  | define a | delete name | deleteAll => cases h

end Named

/-- What one change does: nothing, or it adds an alias whose name is free, puts an alias in the place
    of one with its name, or takes one alias or all of them away. -/
theorem apply_cases (r : AliasRegistry) (c : Change) :
    r.apply c = r ∨
    (∃ a, r.get? a.name = none ∧ r.apply c = r.append a) ∨
    (∃ old a, r.get? a.name = some old ∧ r.apply c = r.replace old a) ∨
    (∃ name old, r.get? name = some old ∧ r.apply c = r.delete name) ∨
    r.apply c = r.deleteAll := by
  cases c with
  | create a =>
    cases h : r.get? a.name with
    | some old => exact .inl (apply_of_found h).1
    | none => exact .inr (.inl ⟨a, h, (apply_of_free h).1⟩)
  | redefine a =>
    cases h : r.get? a.name with
    | some old => exact .inr (.inr (.inl ⟨old, a, h, (apply_of_found h).2.1⟩))
    | none => exact .inl (apply_of_free h).2.1
  | define a =>
    cases h : r.get? a.name with
    | some old => exact .inr (.inr (.inl ⟨old, a, h, (apply_of_found h).2.2⟩))
    | none => exact .inr (.inl ⟨a, h, (apply_of_free h).2.2⟩)
  | delete name =>
    cases h : r.get? name with
    | some old => exact .inr (.inr (.inr (.inl ⟨name, old, h, rfl⟩)))
    | none => exact .inl (apply_delete_of_free h)
  | deleteAll => exact .inr (.inr (.inr (.inr rfl)))

end AliasRegistry

/-! ## Aliases with names that differ -/

namespace Alias

/-- No two aliases have the same name up to ASCII case. -/
def Distinct (as : List Alias) : Prop := (as.map fun a => a.name.lower).Nodup

theorem isNamed_iff {a : Alias} {name : Text} : a.isNamed name = true ↔ a.name.lower = name.lower :=
  Text.alike_iff

theorem isNamed_of_find? {as : List Alias} {name : Text} {a : Alias}
    (h : as.find? (·.isNamed name) = some a) : a.isNamed name = true :=
  List.find?_some (p := fun b : Alias => b.isNamed name) h

theorem Distinct.find?_eq_some_iff {as : List Alias} (h : Distinct as) {name : Text} {a : Alias} :
    as.find? (·.isNamed name) = some a ↔ a ∈ as ∧ a.isNamed name = true := by
  constructor
  · intro hfound
    exact ⟨List.mem_of_find?_eq_some hfound, isNamed_of_find? hfound⟩
  · rintro ⟨ha, hnamed⟩
    have hsome : (as.find? (·.isNamed name)).isSome := List.find?_isSome.2 ⟨a, ha, by simpa using hnamed⟩
    obtain ⟨b, hfound⟩ := Option.isSome_iff_exists.1 hsome
    have hsame : b.name.lower = a.name.lower :=
      (isNamed_iff.1 (isNamed_of_find? hfound)).trans (isNamed_iff.1 hnamed).symm
    rw [hfound, List.inj_on_of_nodup_map h (List.mem_of_find?_eq_some hfound) ha hsame]

/-- A look-up finds the one alias with the name. -/
theorem Distinct.get?_eq_some_iff {r : AliasRegistry} (h : Distinct r.aliases) {name : Text} {a : Alias} :
    r.get? name = some a ↔ a ∈ r.aliases ∧ a.name.lower = name.lower := by
  rw [AliasRegistry.get?, h.find?_eq_some_iff, isNamed_iff]

theorem Distinct.perm {as bs : List Alias} (h : Distinct as) (hperm : as.Perm bs) : Distinct bs :=
  (hperm.map _).nodup_iff.1 h

/-- An alias found by its name stands between aliases of other names. -/
theorem exists_split {as : List Alias} {name : Text} {old : Alias} (h : Distinct as)
    (hfound : as.find? (·.isNamed name) = some old) :
    ∃ before after, as = before ++ old :: after ∧
      (∀ b ∈ before, b.isNamed name = false) ∧ (∀ b ∈ after, b.isNamed name = false) := by
  obtain ⟨hold, before, after, rfl, hbefore⟩ := List.find?_eq_some_iff_append.1 hfound
  refine ⟨before, after, rfl, fun b hb => by simpa using hbefore b hb, fun b hb => ?_⟩
  rw [Distinct, List.map_append, List.map_cons] at h
  have hfresh := (List.nodup_cons.1 (List.nodup_append.1 h).2.1).1
  rw [Bool.eq_false_iff]
  intro hnamed
  refine hfresh (List.mem_map.2 ⟨b, hb, ?_⟩)
  exact (isNamed_iff.1 hnamed).trans (isNamed_iff.1 hold).symm

section Split

variable {before after : List Alias} {old : Alias} {name : Text}

theorem set_findIdx_split (hbefore : ∀ b ∈ before, b.isNamed name = false)
    (hold : old.isNamed name = true) (new : Alias) :
    (before ++ old :: after).set ((before ++ old :: after).findIdx (·.isNamed name)) new =
      before ++ new :: after := by
  have hindex : (before ++ old :: after).findIdx (·.isNamed name) = before.length := by
    rw [List.findIdx_append, if_neg, List.findIdx_cons, hold]
    · simp
    · rw [List.findIdx_eq_length_of_false hbefore]
      exact Nat.lt_irrefl _
  rw [hindex, List.set_append_right _ _ (Nat.le_refl _), Nat.sub_self]
  rfl

theorem eraseP_split (hbefore : ∀ b ∈ before, b.isNamed name = false)
    (hold : old.isNamed name = true) :
    (before ++ old :: after).eraseP (·.isNamed name) = before ++ after := by
  rw [List.eraseP_append_right _ (fun b hb => by simp [hbefore b hb]),
    List.eraseP_cons_of_pos (by simpa using hold)]

end Split

end Alias
end Recipients
