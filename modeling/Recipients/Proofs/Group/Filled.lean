import Mathlib.Data.List.Nodup
import Mathlib.Data.Set.Insert
import Recipients.Proofs.Group.Registry

/-
  Which groups of a registry may be empty (`GroupRegistry.FilledBut`). Naming a group may leave it
  empty; whatever a command does with all the groups that it has named, adding members that are
  taken, removing members, dropping the empty ones or dropping them all, leaves none of them empty.
-/

namespace Recipients

/-- Each name stands for one group, and a group without members is one of `idle` or of `ns`. -/
structure GroupRegistry.FilledBut (idle : Set Text) (ns : GroupNames) (r : GroupRegistry) :
    Prop where
  distinct : (r.map Group.name).Nodup
  filled : ∀ g ∈ r, g.isEmpty = true → g.name ∈ idle ∨ g.name ∈ ns

namespace GroupRegistry

theorem get?_of_mem {r : GroupRegistry} (h : (r.map Group.name).Nodup) {g : Group} (hg : g ∈ r) :
    r.get? g.name = some g := by
  cases hfound : r.get? g.name with
  | none =>
    rw [get?, List.find?_eq_none] at hfound
    exact absurd (beq_self_eq_true g.name) (hfound g hg)
  | some g' =>
    rw [List.inj_on_of_nodup_map h (mem_of_get? hfound) hg (name_of_get? hfound)]

theorem ne_of_get?_none {r : GroupRegistry} {name : Text} (h : r.get? name = none) {g : Group}
    (hg : g ∈ r) : g.name ≠ name := by
  rw [get?, List.find?_eq_none] at h
  simpa using h g hg

theorem nodup_names_put {r : GroupRegistry} (h : (r.map Group.name).Nodup) (g : Group) :
    ((r.put g).map Group.name).Nodup := by
  unfold put
  split
  · have hsame : (Group.name ∘ fun h : Group => if h.name == g.name then g else h) =
        Group.name := by
      funext h
      by_cases hname : h.name = g.name <;> simp [hname]
    rwa [List.map_map, hsame]
  · rename_i hnone
    rw [Bool.not_eq_true, Option.isSome_eq_false_iff, Option.isNone_iff_eq_none] at hnone
    rw [List.map_append, List.nodup_append]
    refine ⟨h, List.nodup_singleton _, ?_⟩
    intro n hn m hm
    obtain ⟨g', hg', rfl⟩ := List.mem_map.1 hn
    rw [List.mem_singleton.1 hm]
    exact ne_of_get?_none hnone hg'

theorem nodup_names_remove {r : GroupRegistry} (h : (r.map Group.name).Nodup) (name : Text) :
    ((r.remove name).map Group.name).Nodup :=
  h.sublist (List.filter_sublist.map _)

namespace FilledBut

variable {idle : Set Text} {ns : GroupNames} {r : GroupRegistry}

theorem empty (idle : Set Text) (ns : GroupNames) : FilledBut idle ns [] :=
  ⟨List.nodup_nil, fun _ hg => absurd hg List.not_mem_nil⟩

theorem mono (h : FilledBut idle ns r) {ms : GroupNames} (hsub : ns ⊆ ms) : FilledBut idle ms r :=
  ⟨h.distinct, fun g hg hempty => (h.filled g hg hempty).imp_right (hsub ·)⟩

theorem filled_of_ne {name : Text} (h : FilledBut idle (name :: ns) r) {g : Group} (hg : g ∈ r)
    (hne : g.name ≠ name) (hempty : g.isEmpty = true) : g.name ∈ idle ∨ g.name ∈ ns :=
  (h.filled g hg hempty).imp_right fun hn => (List.mem_cons.1 hn).resolve_left hne

theorem put (h : FilledBut idle ns r) {g : Group}
    (hg : g.isEmpty = true → g.name ∈ idle ∨ g.name ∈ ns) : FilledBut idle ns (r.put g) := by
  refine ⟨nodup_names_put h.distinct g, fun g' hmem hempty => ?_⟩
  rcases mem_put hmem with rfl | ⟨hr, -⟩
  · exact hg hempty
  · exact h.filled g' hr hempty

theorem put_filled {g : Group} (h : FilledBut idle (g.name :: ns) r) (hg : g.isEmpty = false) :
    FilledBut idle ns (r.put g) := by
  refine ⟨nodup_names_put h.distinct g, fun g' hmem hempty => ?_⟩
  rcases mem_put hmem with rfl | ⟨hr, hne⟩
  · rw [hg] at hempty
    cases hempty
  · exact h.filled_of_ne hr hne hempty

theorem remove {name : Text} (h : FilledBut idle (name :: ns) r) :
    FilledBut idle ns (r.remove name) := by
  refine ⟨nodup_names_remove h.distinct name, fun g hmem hempty => ?_⟩
  obtain ⟨hr, hne⟩ := mem_remove.1 hmem
  exact h.filled_of_ne hr hne hempty

theorem removeIfEmpty {name : Text} (h : FilledBut idle (name :: ns) r) :
    FilledBut idle ns (r.removeIfEmpty name) := by
  unfold GroupRegistry.removeIfEmpty
  split
  · exact h.remove
  · rename_i hfilled
    refine ⟨h.distinct, fun g hg hempty => ?_⟩
    have hne : g.name ≠ name := by
      rintro rfl
      exact hfilled (by rw [get?_of_mem h.distinct hg, Option.any_some, hempty])
    exact h.filled_of_ne hg hne hempty

theorem shrink {name : Text} (h : FilledBut idle (name :: ns) r) {f : Group → Group}
    (hf : ∀ g, (f g).name = g.name) : FilledBut idle ns (r.shrink name f) := by
  unfold GroupRegistry.shrink
  split
  · rename_i g hg
    have hname : (f g).name ∈ name :: ns := by
      rw [hf, name_of_get? hg]
      exact List.mem_cons_self
    exact (h.put fun _ => .inr hname).removeIfEmpty
  · rename_i hnone
    exact ⟨h.distinct, fun g hg => h.filled_of_ne hg (ne_of_get?_none hnone hg)⟩

/-- A step that fills or drops one group, for all the groups that may be empty. -/
theorem foldl {step : GroupRegistry → Text → GroupRegistry}
    (hstep : ∀ {r name ns}, FilledBut idle (name :: ns) r → FilledBut idle ns (step r name))
    (h : FilledBut idle ns r) : FilledBut idle [] (ns.foldl step r) := by
  induction ns generalizing r with
  | nil => exact h
  | cons name ns ih => exact ih (hstep h)

theorem removeEmpty (h : FilledBut idle ns r) : FilledBut idle [] (ns.removeEmpty r) :=
  foldl removeIfEmpty h

theorem clear (h : FilledBut idle ns r) : FilledBut idle [] (ns.clear r) := foldl remove h

theorem removeAddresses (h : FilledBut idle ns r) (l : AddressList) :
    FilledBut idle [] (ns.removeAddresses r l) := foldl (fun h => h.shrink fun _ => rfl) h

theorem removePattern (h : FilledBut idle ns r) (source : Text) :
    FilledBut idle [] (ns.removePattern r source).1 := by
  rw [GroupNames.removePattern_fst]
  exact foldl (fun h => h.shrink fun _ => rfl) h

theorem addAddresses (h : FilledBut idle ns r) {l : AddressList} (hl : l ≠ []) :
    FilledBut idle [] (ns.addAddresses r l) := by
  refine foldl (fun {r name ns} h => ?_) h
  have hname : ((r.get name).addAddresses l).name = name := get_name r name
  exact put_filled (hname.symm ▸ h) (Group.isEmpty_addAddresses _ hl)

theorem addPattern (h : FilledBut idle ns r) {engine : Pattern.Engine} {source : Text}
    (hadded : (ns.addPattern engine r source).2 = none) :
    FilledBut idle [] (ns.addPattern engine r source).1 := by
  induction ns generalizing r with
  | nil => exact h
  | cons name ns ih =>
    have hname : ((r.get name).addPattern engine source).1.name = name := get_name r name
    have hfilled := @Group.isEmpty_addPattern (r.get name) engine source
    rw [GroupNames.addPattern] at hadded ⊢
    generalize (r.get name).addPattern engine source = added at hname hfilled hadded ⊢
    obtain ⟨g, e | e⟩ := added
    · exact ih (put_filled (hname.symm ▸ h) (hfilled rfl)) hadded
    · cases hadded

/-- Where a pattern is not added, no group is filled, but none is left without members either. -/
theorem addPattern_subset (h : FilledBut idle ns r) (engine : Pattern.Engine) (source : Text)
    {ms : GroupNames} (hsub : ms ⊆ ns) :
    FilledBut idle ns (GroupNames.addPattern engine ms r source).1 := by
  induction ms generalizing r with
  | nil => exact h
  | cons name ms ih =>
    rw [List.cons_subset] at hsub
    have hname : ((r.get name).addPattern engine source).1.name = name := get_name r name
    have hput := h.put fun _ => .inr (hname.symm ▸ hsub.1)
    rw [GroupNames.addPattern]
    generalize (r.get name).addPattern engine source = added at hput ⊢
    obtain ⟨g, e | e⟩ := added
    · exact ih hput hsub.2
    · exact hput

/-- A group that is named comes into being without members, but one that there is has them. -/
theorem found (h : FilledBut idle ns r) {name : Text}
    (hname : r.get? name = none → name ∈ idle ∨ name ∈ ns) : FilledBut idle ns (r.found name) := by
  refine h.put fun hempty => ?_
  rw [get_name]
  cases hg : r.get? name with
  | none => exact hname hg
  | some g =>
    rw [get_of_get? hg] at hempty
    rw [← name_of_get? hg]
    exact h.filled g (mem_of_get? hg) hempty

theorem foldl_found {names : List Text} (h : FilledBut idle ns r)
    (hnames : ∀ name ∈ names, r.get? name = none → name ∈ idle ∨ name ∈ ns) :
    FilledBut idle ns (names.foldl GroupRegistry.found r) := by
  induction names generalizing r with
  | nil => exact h
  | cons name names ih =>
    refine ih (h.found (hnames name List.mem_cons_self)) fun n hn hnone => ?_
    rw [get?_found] at hnone
    split at hnone
    · cases hnone
    · exact hnames n (List.mem_cons_of_mem _ hn) hnone

theorem addAll (h : FilledBut idle ns r) (names : List Text) :
    FilledBut idle (ns.addAll r names).1 (ns.addAll r names).2 := by
  induction names generalizing ns r with
  | nil => exact h
  | cons name names ih =>
    refine ih (found (h.mono ?_) fun _ => .inr ?_)
    all_goals split
    · exact List.Subset.refl ns
    · exact List.subset_append_left ns [name]
    · exact List.elem_iff.1 ‹_›
    · exact List.mem_append_right ns List.mem_cons_self

end FilledBut
end GroupRegistry
end Recipients
