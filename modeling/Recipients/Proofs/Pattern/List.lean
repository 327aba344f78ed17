import Recipients.Pattern.List

/-
  Lists of patterns. `tryAdd_cases` says all that adding one can do. Lists to which patterns are only
  added and removed hold no pattern that its source does not compile to (`IsCompiled`), so a source
  that is no pattern is in none of them: adding it fails (`IsCompiled.tryAdd_snd`), and removing it
  does nothing, unless it is the source that stands for every pattern (`IsCompiled.remove_eq`).

  All this holds whatever the engine compiles and whatever compiled patterns match. Where it matters
  that an engine knows no pattern under some source, this is assumed by name (`Engine.Rejects`).
-/

namespace Recipients
namespace Pattern

variable {engine : Engine} {source : Text} {ignoreCase : Bool} {p : Pattern}

theorem source_of_compile (h : compile engine source ignoreCase = some p) : p.source = source := by
  obtain ⟨m, -, rfl⟩ := Option.map_eq_some_iff.1 h
  rfl

/-- The source is no regular expression, not even one that ignores case. -/
def Engine.Rejects (engine : Engine) (source : Text) : Prop := engine.compile source true = none

theorem Engine.Rejects.compile_eq_none (h : engine.Rejects source) :
    Pattern.compile engine source true = none :=
  congrArg (Option.map _) h

end Pattern

namespace PatternList

variable {engine : Pattern.Engine} {ps : PatternList} {source : Text}

theorem contains_iff : ps.contains source = true ↔ source ∈ ps.sources := by
  simp [contains, sources]

/-- Adding a pattern finds its source there, fails, or adds it at the end. -/
theorem tryAdd_cases (engine : Pattern.Engine) (ps : PatternList) (source : Text) :
    (source ∈ ps.sources ∧ ps.tryAdd engine source = (ps, none)) ∨
      (source ∉ ps.sources ∧ Pattern.compile engine source true = none ∧
        ps.tryAdd engine source = (ps, some .invalid)) ∨
      ∃ p, Pattern.compile engine source true = some p ∧ p.source = source ∧
        ps.tryAdd engine source = (ps ++ [p], none) := by
  rw [tryAdd, add]
  cases hnew : ps.contains source with
  | true => exact .inl ⟨contains_iff.1 hnew, rfl⟩
  | false =>
    cases hsource : Pattern.compile engine source true with
    | none =>
      have hfresh : source ∉ ps.sources := by
        rw [← contains_iff, hnew]
        exact Bool.false_ne_true
      exact .inr (.inl ⟨hfresh, rfl, rfl⟩)
    | some p => exact .inr (.inr ⟨p, rfl, Pattern.source_of_compile hsource, rfl⟩)

theorem tryAddSingle_of_ne (h : source ≠ everyPattern) :
    ps.tryAddSingle engine source = ps.tryAdd engine source := if_neg h

theorem tryAddSingle_everyPattern (engine : Pattern.Engine) (ps : PatternList) :
    ps.tryAddSingle engine everyPattern = (ps, none) := if_pos rfl

theorem remove_everyPattern (ps : PatternList) : ps.remove everyPattern = [] := if_pos rfl

theorem remove_subset (ps : PatternList) (source : Text) : ps.remove source ⊆ ps := by
  rw [remove]
  split
  · exact List.nil_subset ps
  · exact List.filter_sublist.subset

/-! ## Compiled patterns -/

/-- Every pattern is what its source is read as. -/
def IsCompiled (engine : Pattern.Engine) (ps : PatternList) : Prop :=
  ∀ p ∈ ps, Pattern.compile engine p.source true = some p

theorem IsCompiled.nil : IsCompiled engine [] := fun _ hp => absurd hp List.not_mem_nil

theorem IsCompiled.remove (h : ps.IsCompiled engine) (source : Text) :
    (ps.remove source).IsCompiled engine :=
  fun p hp => h p (remove_subset ps source hp)

theorem IsCompiled.tryAdd (h : ps.IsCompiled engine) (source : Text) :
    (ps.tryAdd engine source).1.IsCompiled engine := by
  obtain ⟨-, hsame⟩ | ⟨-, -, hsame⟩ | ⟨p, hsource, hp, hadded⟩ := tryAdd_cases engine ps source
  · rwa [hsame]
  · rwa [hsame]
  · rw [hadded]
    intro q hq
    rcases List.mem_append.1 hq with hq | hq
    · exact h q hq
    · rw [List.mem_singleton.1 hq, hp]
      exact hsource

theorem IsCompiled.tryAddSingle (h : ps.IsCompiled engine) (source : Text) :
    (ps.tryAddSingle engine source).1.IsCompiled engine := by
  by_cases hsource : source = everyPattern
  · rwa [hsource, tryAddSingle_everyPattern]
  · rw [tryAddSingle_of_ne hsource]
    exact h.tryAdd source

theorem IsCompiled.compile_ne_none (h : ps.IsCompiled engine) (hmem : source ∈ ps.sources) :
    Pattern.compile engine source true ≠ none := by
  obtain ⟨p, hp, rfl⟩ := List.mem_map.1 hmem
  rw [h p hp]
  exact Option.some_ne_none p

/-- Compiled patterns are joined by every source that is a pattern, and by no other. -/
theorem IsCompiled.tryAdd_snd (h : ps.IsCompiled engine) (source : Text) :
    (ps.tryAdd engine source).2 =
      if (Pattern.compile engine source true).isSome then none else some .invalid := by
  obtain ⟨hmem, hsame⟩ | ⟨-, hsource, hsame⟩ | ⟨p, hsource, -, hadded⟩ :=
    tryAdd_cases engine ps source
  · rw [hsame, if_pos (Option.isSome_iff_ne_none.2 (h.compile_ne_none hmem))]
  · rw [hsame, hsource]
    rfl
  · rw [hadded, hsource]
    rfl

theorem IsCompiled.tryAdd_of_none (h : ps.IsCompiled engine)
    (hsource : Pattern.compile engine source true = none) :
    ps.tryAdd engine source = (ps, some .invalid) := by
  obtain ⟨hmem, -⟩ | ⟨-, -, hsame⟩ | ⟨p, hsome, -⟩ := tryAdd_cases engine ps source
  · exact absurd hsource (h.compile_ne_none hmem)
  · exact hsame
  · rw [hsource] at hsome
    cases hsome

theorem tryAdd_snd_of_some {p : Pattern} (hsource : Pattern.compile engine source true = some p) :
    (ps.tryAdd engine source).2 = none := by
  obtain ⟨-, hsame⟩ | ⟨-, hnone, -⟩ | ⟨p, -, -, hadded⟩ := tryAdd_cases engine ps source
  · rw [hsame]
  · rw [hsource] at hnone
    cases hnone
  · rw [hadded]

theorem tryAddSingle_snd_of_some {p : Pattern}
    (hsource : Pattern.compile engine source true = some p) :
    (ps.tryAddSingle engine source).2 = none := by
  by_cases hevery : source = everyPattern
  · rw [hevery, tryAddSingle_everyPattern]
  · rw [tryAddSingle_of_ne hevery, tryAdd_snd_of_some hsource]

/-- What is no pattern is in no list of compiled ones. -/
theorem IsCompiled.remove_eq (h : ps.IsCompiled engine)
    (hsource : Pattern.compile engine source true = none) (hne : source ≠ everyPattern) :
    ps.remove source = ps := by
  rw [PatternList.remove, if_neg hne, List.filter_eq_self]
  intro p hp
  rw [bne_iff_ne]
  rintro rfl
  exact h.compile_ne_none (List.mem_map_of_mem hp) hsource

end PatternList
end Recipients
