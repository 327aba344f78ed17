import Mathlib.Data.List.Perm.Basic
import Recipients.Proofs.Alias.Index

/-
  Which of the aliases for a mailbox a lookup finds: the one whose definition is the oldest
  (`holder?_run`). A scan of the registry finds the one that stands first there. The two agree
  exactly where the alias that stands first also has the oldest definition; without redefinitions
  that is always so, and `holder?_redefined` is a redefinition after which it is not.
-/

namespace Recipients
namespace AliasRegistry

section Orders

variable {α κ : Type} [BEq κ] [LawfulBEq κ] {key : α → κ} {p : α → Bool} {l order : List α}

/-- What comes before the first element with a property has none of the keys of such elements. -/
theorem idxOf_key_of_split (hnodup : (order.map key).Nodup) {first b : α} {before after : List α}
    (horder : order = before ++ first :: after) (hbefore : ∀ c ∈ before, p c = false)
    (hb : b ∈ order) (hpb : p b = true) :
    (order.map key).idxOf (key b) = before.length + (key first :: after.map key).idxOf (key b) := by
  have hnot : key b ∉ before.map key := by
    intro hmem
    obtain ⟨c, hc, hkey⟩ := List.mem_map.1 hmem
    have hc' : c ∈ order := horder ▸ List.mem_append_left _ hc
    rw [List.inj_on_of_nodup_map hnodup hc' hb hkey] at hc
    rw [hbefore b hc] at hpb
    cases hpb
  rw [horder, List.map_append, List.idxOf_append_of_notMem hnot, List.length_map, List.map_cons]

/-- The first element with a property is the same in two orders of a list, if the first in the one
    comes before the others in the other. -/
theorem find?_eq_iff_of_perm (hperm : order.Perm l) (hnodup : (order.map key).Nodup) :
    order.find? p = l.find? p ↔ ∀ a ∈ l.find? p, ∀ b ∈ l, p b = true →
      (order.map key).idxOf (key a) ≤ (order.map key).idxOf (key b) := by
  constructor
  · intro h a ha b hb hpb
    have hfound := h.trans ha
    obtain ⟨hpa, before, after, horder, hbefore⟩ := List.find?_eq_some_iff_append.1 hfound
    have hbefore' : ∀ c ∈ before, p c = false := fun c hc => by simpa using hbefore c hc
    rw [idxOf_key_of_split hnodup horder hbefore' (List.mem_of_find?_eq_some hfound) hpa,
      idxOf_key_of_split hnodup horder hbefore' (hperm.mem_iff.2 hb) hpb, List.idxOf_cons_self]
    omega
  · intro h
    cases hl : l.find? p with
    | none =>
      rw [List.find?_eq_none] at hl ⊢
      exact fun b hb => hl b (hperm.mem_iff.1 hb)
    | some a =>
      have ha : a ∈ order := hperm.mem_iff.2 (List.mem_of_find?_eq_some hl)
      have hpa : p a = true := List.find?_some hl
      have hsome : (order.find? p).isSome := List.find?_isSome.2 ⟨a, ha, hpa⟩
      obtain ⟨first, hfound⟩ := Option.isSome_iff_exists.1 hsome
      have hfirst : first ∈ order := List.mem_of_find?_eq_some hfound
      obtain ⟨hpfirst, before, after, horder, hbefore⟩ := List.find?_eq_some_iff_append.1 hfound
      have hbefore' : ∀ c ∈ before, p c = false := fun c hc => by simpa using hbefore c hc
      have hle := h a hl first (hperm.mem_iff.1 hfirst) hpfirst
      rw [idxOf_key_of_split hnodup horder hbefore' ha hpa,
        idxOf_key_of_split hnodup horder hbefore' hfirst hpfirst, List.idxOf_cons_self] at hle
      have hkey : key first = key a := by
        by_contra hne
        rw [List.idxOf_cons_ne _ hne] at hle
        omega
      rw [hfound, List.inj_on_of_nodup_map hnodup hfirst ha hkey]

end Orders

/-- The aliases in the order of their latest definitions. -/
def byDefinition (r : AliasRegistry) : List Alias := r.definitionOrder.filterMap r.get?

theorem Ordered.byDefinition {r : AliasRegistry} {order : List Alias} (h : r.Ordered order) :
    r.byDefinition = order := by
  have hself : ∀ a ∈ order, (r.get? ∘ Alias.name) a = some a := by
    intro a ha
    show r.get? a.name = some a
    rw [← h.find?, h.distinct.find?_eq_some_iff]
    exact ⟨ha, Text.alike_refl _⟩
  rw [AliasRegistry.byDefinition, ← h.names, List.filterMap_map, List.filterMap_congr hself,
    List.filterMap_some]

/-- After any changes a lookup finds, of the aliases that hold the mailbox, the one with the oldest
    definition. That is the one that stands first in the registry exactly if no other has been
    defined before it. -/
theorem holder?_run (changes : List Change) (x : Address) :
    (run changes).holder? x = (run changes).byDefinition.find? (·.addresses.search x) ∧
    ((run changes).holder? x = (run changes).aliases.find? (·.addresses.search x) ↔
      ∀ a ∈ (run changes).aliases.find? (·.addresses.search x), ∀ b ∈ (run changes).aliases,
        b.addresses.search x = true →
          (run changes).definitionOrder.idxOf a.name ≤ (run changes).definitionOrder.idxOf b.name) := by
  obtain ⟨order, h⟩ := exists_ordered changes
  have hnodup : (order.map Alias.name).Nodup := by
    refine List.Nodup.of_map Text.lower ?_
    rw [List.map_map]
    exact h.distinct
  rw [h.byDefinition, h.holder? x, ← h.names]
  exact ⟨rfl, find?_eq_iff_of_perm h.perm hnodup⟩

/-- An alias that stands first and gets its mailbox by a redefinition: the lookup finds a later one. -/
theorem holder?_redefined :
    ¬ ∀ (changes : List Change) (x : Address) (b : Alias), (run changes).holder? x = some b →
      (run changes).aliases.find? (·.addresses.search x) = some b := by
  intro h
  let a (mailbox : Text) : Alias := { name := ['a'], addresses := [.ofMailbox mailbox] }
  let b : Alias := { name := ['b'], addresses := [.ofMailbox ['z']] }
  have hscan := h [.create (a ['y']), .create b, .redefine (a ['z'])] (.ofMailbox ['z']) b (by decide)
  revert hscan
  decide

end AliasRegistry
end Recipients
