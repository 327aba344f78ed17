import Recipients.Group.Registry
import Recipients.Proofs.AddressList.Removal
import Recipients.Proofs.Pattern.List

/-
  What a group and a registry of groups hold after each of their operations. A registry is read by
  name: `put` changes what is found under one name, and every other operation comes down to putting
  and removing.
-/

namespace Recipients
namespace Group

/-- What adding a pattern can do: its source is there already, or is no pattern, or it is added. -/
theorem addPattern_cases (engine : Pattern.Engine) (g : Group) (source : Text) :
    (source ∈ g.patterns.sources ∧ g.addPattern engine source = (g, none)) ∨
      (source ∉ g.patterns.sources ∧ Pattern.compile engine source true = none ∧
        g.addPattern engine source = (g, some .invalid)) ∨
      ∃ p, Pattern.compile engine source true = some p ∧ p.source = source ∧
        g.addPattern engine source = ({ g with patterns := g.patterns ++ [p] }, none) := by
  rw [addPattern]
  obtain ⟨hmem, hsame⟩ | ⟨hfresh, hsource, hsame⟩ | ⟨p, hsource, hp, hadded⟩ :=
    PatternList.tryAdd_cases engine g.patterns source
  · exact .inl ⟨hmem, by rw [hsame]⟩
  · exact .inr (.inl ⟨hfresh, hsource, by rw [hsame]⟩)
  · exact .inr (.inr ⟨p, hsource, hp, by rw [hadded]⟩)

theorem isEmpty_addAddresses (g : Group) {l : AddressList} (hl : l ≠ []) :
    (g.addAddresses l).isEmpty = false := by
  rw [isEmpty, Bool.and_eq_false_iff]
  refine .inl ?_
  rw [← Bool.not_eq_true, List.isEmpty_iff, addAddresses, List.append_eq_nil_iff]
  rintro ⟨hg, hnew⟩
  rw [hg, AddressList.without_nil] at hnew
  exact hl hnew

theorem isEmpty_addPattern (g : Group) {engine : Pattern.Engine} {source : Text}
    (h : (g.addPattern engine source).2 = none) : (g.addPattern engine source).1.isEmpty = false := by
  rw [isEmpty, Bool.and_eq_false_iff]
  refine .inr ?_
  rw [← Bool.not_eq_true, List.isEmpty_iff]
  obtain ⟨hmem, hsame⟩ | ⟨-, -, hfailed⟩ | ⟨p, -, -, hadded⟩ := g.addPattern_cases engine source
  · intro hnone
    rw [hsame] at hnone
    rw [hnone] at hmem
    cases hmem
  · rw [hfailed] at h
    cases h
  · rw [hadded]
    exact List.append_ne_nil_of_right_ne_nil _ (List.cons_ne_nil _ _)

end Group

namespace GroupRegistry

theorem name_of_get? {r : GroupRegistry} {n : Text} {g : Group} (h : r.get? n = some g) :
    g.name = n := by
  simpa using List.find?_some h

theorem get_of_get? {r : GroupRegistry} {n : Text} {g : Group} (h : r.get? n = some g) :
    r.get n = g := by
  rw [get, h, Option.getD_some]

theorem get_of_get?_none {r : GroupRegistry} {n : Text} (h : r.get? n = none) :
    r.get n = { name := n } := by
  rw [get, h, Option.getD_none]

theorem get_name (r : GroupRegistry) (n : Text) : (r.get n).name = n := by
  cases h : r.get? n with
  | none => rw [get_of_get?_none h]
  | some g => rw [get_of_get? h, name_of_get? h]

theorem get?_put (r : GroupRegistry) (g : Group) (n : Text) :
    (r.put g).get? n = if n = g.name then some g else r.get? n := by
  unfold put
  split
  · rename_i hsome
    rw [get?, List.find?_map]
    by_cases hn : n = g.name
    · obtain ⟨h, hfound⟩ := Option.isSome_iff_exists.1 hsome
      have hsame : ((fun h : Group => h.name == n) ∘ fun h => if h.name == g.name then g else h) =
          fun h => h.name == g.name := by
        funext h
        by_cases hh : h.name = g.name <;> simp [hh, hn]
      rw [get?] at hfound
      rw [if_pos hn, hsame, hfound, Option.map_some, if_pos (List.find?_some hfound)]
    · have hsame : ((fun h : Group => h.name == n) ∘ fun h => if h.name == g.name then g else h) =
          fun h => h.name == n := by
        funext h
        by_cases hh : h.name = g.name <;> simp [hh]
      rw [if_neg hn, hsame, get?]
      cases hfound : r.find? fun h => h.name == n with
      | none => rfl
      | some h =>
        have hname : h.name = n := name_of_get? hfound
        rw [Option.map_some, if_neg (by simp [hname, hn])]
  · rename_i hnone
    rw [Bool.not_eq_true, Option.isSome_eq_false_iff, Option.isNone_iff_eq_none] at hnone
    rw [get?, List.find?_append, List.find?_singleton]
    by_cases hn : n = g.name
    · rw [hn, if_pos rfl]
      rw [get?] at hnone
      rw [hnone, if_pos (beq_self_eq_true _)]
      rfl
    · rw [if_neg hn, if_neg (by simpa using Ne.symm hn), Option.or_none, get?]

theorem get?_remove (r : GroupRegistry) (name n : Text) :
    (r.remove name).get? n = if n = name then none else r.get? n := by
  rw [remove, get?, List.find?_filter]
  split
  · rename_i hn
    rw [List.find?_eq_none]
    intro g _
    simp [hn]
  · rename_i hn
    rw [get?]
    congr 1
    funext g
    by_cases hg : g.name = n
    · simp [hg, hn]
    · simp [hg]

theorem get?_found (r : GroupRegistry) (name n : Text) :
    (r.found name).get? n = if n = name then some (r.get n) else r.get? n := by
  rw [found, get?_put, get_name]
  split
  · rename_i hn
    rw [hn]
  · rfl

/-- Naming a group changes nothing about what the groups are. -/
theorem get_found (r : GroupRegistry) (name n : Text) : (r.found name).get n = r.get n := by
  rw [get, get?_found]
  split
  · rfl
  · rfl

theorem get?_foldl_found (r : GroupRegistry) (names : List Text) (n : Text) :
    (names.foldl found r).get? n = if n ∈ names then some (r.get n) else r.get? n := by
  induction names generalizing r with
  | nil => rfl
  | cons name names ih =>
    rw [List.foldl_cons, ih, get_found, get?_found]
    by_cases hn : n = name <;> simp [hn]

theorem get?_removeIfEmpty (r : GroupRegistry) (name n : Text) :
    (r.removeIfEmpty name).get? n =
      if n = name then (r.get? n).filter fun g => !g.isEmpty else r.get? n := by
  by_cases hn : n = name
  · subst hn
    rw [if_pos rfl, removeIfEmpty]
    cases hg : r.get? n with
    | none => simp [hg]
    | some g => cases hempty : g.isEmpty <;> simp [hg, hempty, get?_remove, Option.filter_some]
  · rw [if_neg hn, removeIfEmpty]
    split
    · rw [get?_remove, if_neg hn]
    · rfl

theorem get?_shrink (r : GroupRegistry) (name n : Text) {f : Group → Group}
    (hf : ∀ g, (f g).name = g.name) :
    (r.shrink name f).get? n =
      if n = name then ((r.get? n).map f).filter fun g => !g.isEmpty else r.get? n := by
  unfold shrink
  cases hg : r.get? name with
  | none =>
    by_cases hn : n = name
    · simp [hn, hg]
    · rw [if_neg hn]
  | some g =>
    have hname : (f g).name = name := (hf g).trans (name_of_get? hg)
    show ((r.put (f g)).removeIfEmpty name).get? n = _
    rw [get?_removeIfEmpty, get?_put, hname]
    by_cases hn : n = name
    · rw [if_pos hn, if_pos hn, if_pos hn, hn, hg, Option.map_some]
    · rw [if_neg hn, if_neg hn, if_neg hn]

/-! ## The groups themselves -/

theorem mem_put {r : GroupRegistry} {g h : Group} (hmem : h ∈ r.put g) :
    h = g ∨ h ∈ r ∧ h.name ≠ g.name := by
  unfold put at hmem
  split at hmem
  · obtain ⟨h', hh', rfl⟩ := List.mem_map.1 hmem
    split
    · exact .inl rfl
    · rename_i hname
      exact .inr ⟨hh', by simpa using hname⟩
  · rename_i hnone
    rw [Bool.not_eq_true, Option.isSome_eq_false_iff, Option.isNone_iff_eq_none, get?,
      List.find?_eq_none] at hnone
    rcases List.mem_append.1 hmem with hr | hg
    · exact .inr ⟨hr, by simpa using hnone h hr⟩
    · exact .inl (List.mem_singleton.1 hg)

theorem mem_remove {r : GroupRegistry} {name : Text} {g : Group} :
    g ∈ r.remove name ↔ g ∈ r ∧ g.name ≠ name := by
  rw [remove, List.mem_filter, bne_iff_ne]

theorem removeIfEmpty_subset (r : GroupRegistry) (name : Text) : r.removeIfEmpty name ⊆ r := by
  unfold removeIfEmpty
  split
  · exact fun _ hg => (mem_remove.1 hg).1
  · exact List.Subset.refl r

theorem mem_of_get? {r : GroupRegistry} {n : Text} {g : Group} (h : r.get? n = some g) : g ∈ r :=
  List.mem_of_find?_eq_some h

end GroupRegistry

namespace GroupNames

/-- Removing a pattern makes each group smaller in turn; what it says does not matter for that. -/
theorem removePattern_fst (ns : GroupNames) (r : GroupRegistry) (source : Text) :
    (ns.removePattern r source).1 =
      ns.foldl (fun r n => r.shrink n (·.removePattern source)) r := by
  induction ns generalizing r with
  | nil => rfl
  | cons n ns ih => exact ih _

end GroupNames
end Recipients
