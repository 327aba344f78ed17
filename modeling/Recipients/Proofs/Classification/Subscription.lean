import Mathlib.Data.List.Basic
import Mathlib.Data.List.Induction
import Recipients.Proofs.Classification.Changes

/-
  Subscribed lists against known lists. Every pattern of a subscription is a pattern of a known list
  (`subscribed_subset_run`), so an address that is subscribed to is known, unless an exception from
  the known lists matches it. The exceptions are the patterns that were removed from the known lists
  and were not listed again or subscribed to since (`mem_unlists_run`). Removing a pattern takes away
  the subscriptions with that very source only: a subscription with another source, which matches the
  same address, stays (`isSubscribed_excepted`). All this holds with every engine, whatever it takes
  for a pattern and whatever patterns match.
-/

namespace Recipients

open PatternList (everyPattern)

variable {engine : Pattern.Engine}

namespace PatternList

variable {ps : PatternList} {source : Text} {p : Pattern}

theorem mem_remove : p ∈ ps.remove source ↔ p ∈ ps ∧ source ≠ everyPattern ∧ p.source ≠ source := by
  rw [remove]
  split
  · rename_i hsource
    simp [hsource]
  · rename_i hsource
    simp [hsource]

theorem isMatch_iff {t : Text} : ps.isMatch t = true ↔ ∃ p ∈ ps, p.isMatch t = true := List.any_eq_true

theorem subset_tryAdd (engine : Pattern.Engine) (ps : PatternList) (source : Text) :
    ps ⊆ (ps.tryAdd engine source).1 := by
  obtain ⟨-, hsame⟩ | ⟨-, -, hsame⟩ | ⟨p, -, -, hadded⟩ := tryAdd_cases engine ps source
  · rw [hsame]
    exact List.Subset.refl ps
  · rw [hsame]
    exact List.Subset.refl ps
  · rw [hadded]
    exact List.subset_append_left ps [p]

/-- What a list of compiled patterns holds after one more was added. -/
theorem IsCompiled.mem_tryAdd (h : ps.IsCompiled engine) :
    p ∈ (ps.tryAdd engine source).1 ↔ p ∈ ps ∨ Pattern.compile engine source true = some p := by
  obtain ⟨hmem, hsame⟩ | ⟨-, hnone, hsame⟩ | ⟨q, hsome, -, hadded⟩ := tryAdd_cases engine ps source
  · obtain ⟨q, hq, rfl⟩ := List.mem_map.1 hmem
    rw [hsame, h q hq, Option.some.injEq]
    exact ⟨.inl, fun hp => hp.elim id fun heq => heq ▸ hq⟩
  · simp [hsame, hnone]
  · rw [hadded, hsome, List.mem_append, List.mem_singleton, Option.some.injEq, eq_comm]

theorem IsCompiled.mem_tryAddSingle (h : ps.IsCompiled engine) :
    p ∈ (ps.tryAddSingle engine source).1 ↔
      p ∈ ps ∨ (source ≠ everyPattern ∧ Pattern.compile engine source true = some p) := by
  by_cases hsource : source = everyPattern
  · rw [hsource, tryAddSingle_everyPattern]
    simp
  · rw [tryAddSingle_of_ne hsource, h.mem_tryAdd]
    simp [hsource]

theorem remove_subset_remove {qs : PatternList} (h : ps ⊆ qs) (source : Text) :
    ps.remove source ⊆ qs.remove source := by
  intro p hp
  obtain ⟨hmem, hne⟩ := mem_remove.1 hp
  exact mem_remove.2 ⟨h hmem, hne⟩

end PatternList

namespace MailingLists

variable {m : MailingLists} {c : Change} {p : Pattern} {source : Text}

/-! ## Subscriptions are known -/

theorem subscribed_subset_perform (hm : m.IsCompiled engine) (h : m.subscribed ⊆ m.lists)
    (c : Change) : (m.perform engine c).1.subscribed ⊆ (m.perform engine c).1.lists := by
  cases c with
  | addList source => exact List.Subset.trans h (PatternList.subset_tryAdd engine m.lists source)
  | removeList source => exact PatternList.remove_subset_remove h source
  | unsubscribe source => exact List.Subset.trans (PatternList.remove_subset m.subscribed source) h
  | subscribe source =>
    rw [perform, subscribe_eq]
    intro p hp
    dsimp only at hp ⊢
    rw [hm.lists.mem_tryAdd]
    split at hp
    · exact (hm.subscribed.mem_tryAdd.1 hp).imp_left (h ·)
    · exact .inl (h hp)

theorem subscribed_subset_run (engine : Pattern.Engine) (changes : List Change) :
    (run engine changes).subscribed ⊆ (run engine changes).lists := by
  suffices h : (run engine changes).IsCompiled engine ∧
    (run engine changes).subscribed ⊆ (run engine changes).lists from h.2
  refine List.foldlRecOn
    (motive := fun m : MailingLists => m.IsCompiled engine ∧ m.subscribed ⊆ m.lists) changes _
    ⟨isCompiled_run engine [], List.nil_subset _⟩ fun m hm c _ => ?_
  exact ⟨hm.1.perform c, subscribed_subset_perform hm.1 hm.2 c⟩

/-! ## Exceptions from the known lists -/

/-- Whether a change takes a source from the exceptions. -/
def Change.Readmits (source : Text) : Change → Prop
  | .addList s | .subscribe s => s = source ∨ s = everyPattern
  | .removeList _ | .unsubscribe _ => False

/-- The source was removed from the known lists, and no change has readmitted it since. The source that
    stands for every pattern is removed with them, but is no exception itself. -/
def IsExcepted (changes : List Change) (source : Text) : Prop :=
  source ≠ everyPattern ∧ ∃ earlier later,
    changes = earlier ++ .removeList source :: later ∧ ∀ c ∈ later, ¬ c.Readmits source

theorem not_isExcepted_nil : ¬ IsExcepted [] source := by
  rintro ⟨-, earlier, later, h, -⟩
  exact List.append_ne_nil_of_right_ne_nil earlier (List.cons_ne_nil _ later) h.symm

theorem isExcepted_concat {changes : List Change} : IsExcepted (changes ++ [c]) source ↔
    (source ≠ everyPattern ∧ c = .removeList source) ∨
      (IsExcepted changes source ∧ ¬ c.Readmits source) := by
  constructor
  · rintro ⟨hsource, earlier, later, hsplit, hlater⟩
    rcases List.eq_nil_or_concat' later with rfl | ⟨later, d, rfl⟩
    · exact .inl ⟨hsource, List.append_inj' hsplit rfl |>.2 |> List.singleton_inj.1⟩
    · rw [← List.cons_append, ← List.append_assoc] at hsplit
      obtain ⟨hchanges, hlast⟩ := List.append_inj' hsplit rfl
      obtain rfl := List.singleton_inj.1 hlast
      exact .inr ⟨⟨hsource, earlier, later, hchanges,
        fun d hd => hlater d (List.mem_append_left _ hd)⟩,
        hlater c (List.mem_append_right _ List.mem_cons_self)⟩
  · rintro (⟨hsource, rfl⟩ | ⟨⟨hsource, earlier, later, rfl, hlater⟩, hc⟩)
    · exact ⟨hsource, changes, [], rfl, fun _ h => (nomatch h)⟩
    · refine ⟨hsource, earlier, later ++ [c], by simp, fun d hd => ?_⟩
      rcases List.mem_append.1 hd with hd | hd
      · exact hlater d hd
      · rwa [List.mem_singleton.1 hd]

/-- One change to the exceptions: a pattern goes in by its removal, and leaves when it is readmitted. -/
theorem mem_unlists_perform (h : m.IsCompiled engine) :
    p ∈ (m.perform engine c).1.unlists ↔
      (p.source ≠ everyPattern ∧ c = .removeList p.source ∧
        Pattern.compile engine p.source true = some p) ∨
        (p ∈ m.unlists ∧ ¬ c.Readmits p.source) := by
  have hremove (source : Text) : p ∈ m.unlists.remove source ↔
      p ∈ m.unlists ∧ ¬ (source = p.source ∨ source = everyPattern) := by
    rw [PatternList.mem_remove, not_or, and_comm (a := source ≠ everyPattern), ne_comm]
  cases c with
  | addList source => simpa [perform, addList, Change.Readmits] using hremove source
  | subscribe source =>
    rw [perform, subscribe_eq]
    simpa [Change.Readmits] using hremove source
  | unsubscribe source => simp [perform, unsubscribe, Change.Readmits]
  | removeList source =>
    show p ∈ (m.unlists.tryAddSingle engine source).1 ↔ _
    rw [h.unlists.mem_tryAddSingle, Change.removeList.injEq]
    constructor
    · rintro (hp | ⟨hne, hc⟩)
      · exact .inr ⟨hp, not_false⟩
      · obtain rfl := Pattern.source_of_compile hc
        exact .inl ⟨hne, rfl, hc⟩
    · rintro (⟨hne, rfl, hc⟩ | ⟨hp, -⟩)
      · exact .inr ⟨hne, hc⟩
      · exact .inl hp

theorem mem_unlists_run (changes : List Change) : p ∈ (run engine changes).unlists ↔
    Pattern.compile engine p.source true = some p ∧ IsExcepted changes p.source := by
  induction changes using List.reverseRecOn with
  | nil => exact iff_of_false List.not_mem_nil fun h => not_isExcepted_nil h.2
  | append_singleton changes c ih =>
    have hrun : run engine (changes ++ [c]) = ((run engine changes).perform engine c).1 := by
      rw [run, List.foldl_append]
      rfl
    rw [hrun, mem_unlists_perform (isCompiled_run engine changes), ih, isExcepted_concat]
    constructor
    · rintro (⟨hne, hc, hp⟩ | ⟨⟨hp, hexcepted⟩, hc⟩)
      · exact ⟨hp, .inl ⟨hne, hc⟩⟩
      · exact ⟨hp, .inr ⟨hexcepted, hc⟩⟩
    · rintro ⟨hp, ⟨hne, hc⟩ | ⟨hexcepted, hc⟩⟩
      · exact .inl ⟨hne, hc, hp⟩
      · exact .inr ⟨⟨hp, hexcepted⟩, hc⟩

/-- A pattern that was removed from the known lists, and not readmitted since, matches the address. -/
def Excepts (engine : Pattern.Engine) (changes : List Change) (a : Address) : Prop :=
  ∃ t ∈ a.mailbox, ∃ source p, IsExcepted changes source ∧
    Pattern.compile engine source true = some p ∧ p.isMatch t = true

theorem isMatch_unlists_run (changes : List Change) (t : Text) :
    (run engine changes).unlists.isMatch t = true ↔
      ∃ source p, IsExcepted changes source ∧ Pattern.compile engine source true = some p ∧
        p.isMatch t = true := by
  rw [PatternList.isMatch_iff]
  constructor
  · rintro ⟨p, hp, hmatch⟩
    obtain ⟨hcompile, hexcepted⟩ := (mem_unlists_run changes).1 hp
    exact ⟨p.source, p, hexcepted, hcompile, hmatch⟩
  · rintro ⟨source, p, hexcepted, hcompile, hmatch⟩
    obtain rfl := Pattern.source_of_compile hcompile
    exact ⟨p, (mem_unlists_run changes).2 ⟨hcompile, hexcepted⟩, hmatch⟩

/-- After any changes, an address that is subscribed to is known as a list, except where a pattern
    that was removed from the known lists, and not readmitted since, matches it as well. -/
theorem isList_run_of_isSubscribed {changes : List Change} {a : Address}
    (h : (run engine changes).isSubscribed a = true) :
    (run engine changes).isList a = true ↔ ¬ Excepts engine changes a := by
  obtain ⟨t, ht, hmatch⟩ := (Option.any_eq_true _ _).1 h
  have hknown : (run engine changes).lists.isMatch t = true := by
    obtain ⟨p, hp, hpt⟩ := PatternList.isMatch_iff.1 (Bool.and_eq_true_iff.1 hmatch).2
    exact PatternList.isMatch_iff.2 ⟨p, subscribed_subset_run engine changes hp, hpt⟩
  rw [isList, ht, Option.any_some, hknown, Bool.and_true, Bool.not_eq_true', ← Bool.not_eq_true,
    isMatch_unlists_run]
  simp [Excepts, ht]

theorem excepts_of_isSubscribed :
    let changes : List Change := [.subscribe ['a'], .removeList ['a', 'a']]
    let a : Address := .ofMailbox "aa@x".toList
    (run .standard changes).isSubscribed a = true ∧ Excepts .standard changes a := by
  intro changes a
  have hsubscribed : (run .standard changes).isSubscribed a = true := by decide +kernel
  have hiff := isList_run_of_isSubscribed hsubscribed
  exact ⟨hsubscribed, not_not.1 fun h => absurd (hiff.2 h) (by decide +kernel)⟩

/-- The subscription is by one pattern, the exception by another, and both match. -/
theorem isSubscribed_excepted :
    ¬ ∀ (engine : Pattern.Engine) (changes : List Change) (a : Address),
      (run engine changes).isSubscribed a = true → (run engine changes).isList a = true := by
  intro h
  have hlist := h .standard [.subscribe ['a'], .removeList ['a', 'a']] (.ofMailbox "aa@x".toList)
  revert hlist
  decide +kernel

end MailingLists
end Recipients
