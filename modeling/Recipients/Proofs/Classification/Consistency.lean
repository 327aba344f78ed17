import Mathlib.Data.List.Nodup
import Recipients.Proofs.Classification.Subscription

/-
  How the lists of patterns fit together. Whatever is listed leaves the exceptions, and whatever
  becomes an exception is no longer listed, so no source is ever on both sides
  (`disjoint_tryAdd_remove`, whether or not the source is a pattern). A list holds no source twice, and
  what is subscribed to is known. Alternates and mailing lists keep all this through every change,
  rejected ones included, with every engine (`consistent_run`).
-/

namespace Recipients

variable {engine : Pattern.Engine}

namespace PatternList

open List (Disjoint)

variable {ps qs : PatternList} {source s : Text}

/-! ## Sources -/

theorem mem_sources_remove :
    s ∈ (ps.remove source).sources ↔ s ∈ ps.sources ∧ source ≠ everyPattern ∧ s ≠ source := by
  constructor
  · intro h
    obtain ⟨p, hp, rfl⟩ := List.mem_map.1 h
    obtain ⟨hmem, hne⟩ := mem_remove.1 hp
    exact ⟨List.mem_map_of_mem hmem, hne⟩
  · rintro ⟨h, hne⟩
    obtain ⟨p, hp, rfl⟩ := List.mem_map.1 h
    exact List.mem_map_of_mem (mem_remove.2 ⟨hp, hne⟩)

/-- Adding a pattern brings its source in and no other. -/
theorem mem_sources_tryAdd (h : s ∈ (ps.tryAdd engine source).1.sources) :
    s ∈ ps.sources ∨ s = source := by
  obtain ⟨-, hsame⟩ | ⟨-, -, hsame⟩ | ⟨p, -, hp, hadded⟩ := tryAdd_cases engine ps source
  · exact .inl (by rwa [hsame] at h)
  · exact .inl (by rwa [hsame] at h)
  · rw [hadded, sources, List.map_append] at h
    refine (List.mem_append.1 h).imp_right fun h => ?_
    rw [List.mem_singleton.1 h, hp]

theorem nodup_sources_remove (h : ps.sources.Nodup) (source : Text) :
    (ps.remove source).sources.Nodup := by
  rw [remove]
  split
  · exact List.nodup_nil
  · exact h.sublist (List.filter_sublist.map _)

theorem tryAdd_of_mem (h : source ∈ ps.sources) : ps.tryAdd engine source = (ps, none) := by
  rw [tryAdd, add, if_pos (contains_iff.2 h)]

theorem nodup_sources_tryAdd (h : ps.sources.Nodup) (source : Text) :
    (ps.tryAdd engine source).1.sources.Nodup := by
  by_cases hmem : source ∈ ps.sources
  · rwa [tryAdd_of_mem hmem]
  · obtain ⟨-, hsame⟩ | ⟨-, -, hsame⟩ | ⟨p, -, hp, hadded⟩ := tryAdd_cases engine ps source
    · rwa [hsame]
    · rwa [hsame]
    · rw [hadded, sources, List.map_append]
      refine List.nodup_append.2 ⟨h, List.nodup_singleton _, ?_⟩
      rintro s hs t ht rfl
      rw [List.mem_singleton.1 ht, hp] at hs
      exact hmem hs

theorem nodup_sources_tryAddSingle (h : ps.sources.Nodup) (source : Text) :
    (ps.tryAddSingle engine source).1.sources.Nodup := by
  by_cases hsource : source = everyPattern
  · rwa [hsource, tryAddSingle_everyPattern]
  · rw [tryAddSingle_of_ne hsource]
    exact nodup_sources_tryAdd h source

/-! ## Two lists -/

theorem disjoint_remove (h : Disjoint ps.sources qs.sources) (source : Text) :
    Disjoint (ps.remove source).sources qs.sources :=
  fun _ hs ht => h (mem_sources_remove.1 hs).1 ht

/-- A source that joins one list leaves the other; one that is no pattern joins none. -/
theorem disjoint_tryAdd_remove (h : Disjoint ps.sources qs.sources) (source : Text) :
    Disjoint (ps.tryAdd engine source).1.sources (qs.remove source).sources := by
  intro s hs ht
  obtain ⟨hmem, -, hne⟩ := mem_sources_remove.1 ht
  exact h ((mem_sources_tryAdd hs).resolve_right hne) hmem

theorem disjoint_remove_tryAddSingle (h : Disjoint ps.sources qs.sources) (source : Text) :
    Disjoint (ps.remove source).sources (qs.tryAddSingle engine source).1.sources := by
  by_cases hsource : source = everyPattern
  · rw [hsource, remove_everyPattern]
    exact List.disjoint_nil_left _
  · rw [tryAddSingle_of_ne hsource]
    exact List.disjoint_symm (disjoint_tryAdd_remove (List.disjoint_symm h) source)

end PatternList

open PatternList

/-! ## Alternates -/

namespace Alternates

/-- No source stands twice, in one list or in both. -/
structure Consistent (a : Alternates) : Prop where
  disjoint : List.Disjoint a.patterns.sources a.exceptions.sources
  nodup_patterns : a.patterns.sources.Nodup
  nodup_exceptions : a.exceptions.sources.Nodup

variable {a : Alternates}

theorem Consistent.perform (h : a.Consistent) (c : Change) :
    (a.perform engine c).1.Consistent := by
  cases c with
  | add source =>
    exact ⟨disjoint_tryAdd_remove h.disjoint source, nodup_sources_tryAdd h.nodup_patterns source,
      nodup_sources_remove h.nodup_exceptions source⟩
  | remove source =>
    exact ⟨disjoint_remove_tryAddSingle h.disjoint source,
      nodup_sources_remove h.nodup_patterns source,
      nodup_sources_tryAddSingle h.nodup_exceptions source⟩

end Alternates

/-! ## Mailing lists -/

namespace MailingLists

/-- No source is on both sides, of the known lists or of those subscribed to, or twice on one. -/
structure Consistent (m : MailingLists) : Prop where
  disjoint_lists : List.Disjoint m.lists.sources m.unlists.sources
  disjoint_subscribed : List.Disjoint m.subscribed.sources m.unsubscribed.sources
  nodup_lists : m.lists.sources.Nodup
  nodup_unlists : m.unlists.sources.Nodup
  nodup_subscribed : m.subscribed.sources.Nodup
  nodup_unsubscribed : m.unsubscribed.sources.Nodup

variable {m : MailingLists}

theorem Consistent.perform (h : m.Consistent) (c : Change) :
    (m.perform engine c).1.Consistent := by
  cases c with
  | addList source =>
    exact { h with
      disjoint_lists := disjoint_tryAdd_remove h.disjoint_lists source
      nodup_lists := nodup_sources_tryAdd h.nodup_lists source
      nodup_unlists := nodup_sources_remove h.nodup_unlists source }
  | removeList source =>
    exact { h with
      disjoint_lists := disjoint_remove_tryAddSingle h.disjoint_lists source
      disjoint_subscribed := disjoint_remove h.disjoint_subscribed source
      nodup_lists := nodup_sources_remove h.nodup_lists source
      nodup_unlists := nodup_sources_tryAddSingle h.nodup_unlists source
      nodup_subscribed := nodup_sources_remove h.nodup_subscribed source }
  | subscribe source =>
    rw [MailingLists.perform, subscribe_eq]
    refine ⟨disjoint_tryAdd_remove h.disjoint_lists source, ?_,
      nodup_sources_tryAdd h.nodup_lists source, nodup_sources_remove h.nodup_unlists source, ?_,
      nodup_sources_remove h.nodup_unsubscribed source⟩
    all_goals dsimp only
    all_goals split
    · exact disjoint_tryAdd_remove h.disjoint_subscribed source
    · exact List.disjoint_symm (disjoint_remove (List.disjoint_symm h.disjoint_subscribed) source)
    · exact nodup_sources_tryAdd h.nodup_subscribed source
    · exact h.nodup_subscribed
  | unsubscribe source =>
    exact { h with
      disjoint_subscribed := disjoint_remove_tryAddSingle h.disjoint_subscribed source
      nodup_subscribed := nodup_sources_remove h.nodup_subscribed source
      nodup_unsubscribed := nodup_sources_tryAddSingle h.nodup_unsubscribed source }

end MailingLists

/-- After any changes, rejected ones included, no source is an alternate and an exception, a list and no
    list, or subscribed and unsubscribed; what is subscribed to is a list; and no list of patterns holds a
    source twice. -/
theorem consistent_run (engine : Pattern.Engine) (as : List Alternates.Change)
    (ms : List MailingLists.Change) :
    (Alternates.run engine as).Consistent ∧ (MailingLists.run engine ms).Consistent ∧
      (MailingLists.run engine ms).subscribed.sources ⊆
        (MailingLists.run engine ms).lists.sources := by
  refine ⟨?_, ?_, List.map_subset _ (MailingLists.subscribed_subset_run engine ms)⟩
  · exact List.foldlRecOn as _ ⟨List.disjoint_nil_left _, .nil, .nil⟩ fun _ h c _ => h.perform c
  · exact List.foldlRecOn ms _
      ⟨List.disjoint_nil_left _, List.disjoint_nil_left _, .nil, .nil, .nil, .nil⟩
      fun _ h c _ => h.perform c

end Recipients
