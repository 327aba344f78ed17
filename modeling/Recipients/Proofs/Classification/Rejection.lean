import Recipients.Proofs.Classification.Changes

/-
  Changes that are rejected. A source that is no pattern changes nothing, with one exception: where
  patterns are removed, one such source stands for every pattern, and a change that adds drops its
  source from the exceptions before it looks whether the source is a pattern. So adding that source
  fails and empties the exceptions (`add_void`). These are all the rejected changes that leave a trace
  (`rejected_run`). Of the engine only this is assumed, that it knows no pattern under that source.
-/

namespace Recipients

open PatternList (everyPattern)

variable {engine : Pattern.Engine}

/-- A change that is rejected leaves what it was made on. -/
def Atomic {σ : Type} (before : σ) (after : σ × Option PatternError) : Prop :=
  after.2 ≠ none → after.1 = before

section Atomic

variable {σ : Type} {before now : σ} {after : σ × Option PatternError}

theorem atomic_of_accepted (h : after.2 = none) : Atomic before after := fun hne => absurd h hne

theorem atomic_rejected_iff {e : PatternError} : Atomic before (now, some e) ↔ now = before :=
  ⟨fun h => h (Option.some_ne_none e), fun h _ => h⟩

/-- A change that takes every pattern, and leaves everything for a source that is none. -/
theorem atomic_of_compile {source : Text}
    (hsome : ∀ p, Pattern.compile engine source true = some p → after.2 = none)
    (hnone : Pattern.compile engine source true = none → after = (before, some .invalid)) :
    Atomic before after := by
  cases hc : Pattern.compile engine source true with
  | some p => exact atomic_of_accepted (hsome p hc)
  | none =>
    rw [hnone hc]
    exact atomic_rejected_iff.2 rfl

end Atomic

namespace Alternates

/-- The change is bound to fail, and there are exceptions that it takes away. -/
def Change.Voids (a : Alternates) (c : Change) : Prop := c = .add everyPattern ∧ a.exceptions ≠ []

variable {a : Alternates} {c : Change}

theorem Change.source_of_voids (h : c.Voids a) : c.source = everyPattern := by
  rw [h.1]
  rfl

theorem IsCompiled.atomic_add_everyPattern (h : a.IsCompiled engine)
    (hevery : engine.Rejects everyPattern) :
    Atomic a (a.add engine everyPattern) ↔ ¬ Change.Voids a (.add everyPattern) := by
  rw [h.add_everyPattern hevery, atomic_rejected_iff, Change.Voids]
  cases a
  simp [eq_comm]

theorem IsCompiled.atomic_iff (h : a.IsCompiled engine) (hevery : engine.Rejects everyPattern)
    (c : Change) : Atomic a (a.perform engine c) ↔ ¬ c.Voids a := by
  by_cases hsource : c.source = everyPattern
  · cases c with
    | add source =>
      obtain rfl : source = everyPattern := hsource
      exact h.atomic_add_everyPattern hevery
    | remove source =>
      obtain rfl : source = everyPattern := hsource
      have hatomic : Atomic a (a.remove engine everyPattern) := by
        rw [remove_everyPattern]
        exact atomic_of_accepted rfl
      exact iff_of_true hatomic fun hv => nomatch hv.1
  · refine iff_of_true ?_ fun hv => hsource (Change.source_of_voids hv)
    exact atomic_of_compile (fun _ hc => perform_of_pattern hc)
      fun hc => h.perform_of_none hc hsource

end Alternates

namespace MailingLists

/-- The change is bound to fail, and there are exceptions that it takes away. -/
def Change.Voids (m : MailingLists) (c : Change) : Prop :=
  (c = .addList everyPattern ∧ m.unlists ≠ []) ∨
    (c = .subscribe everyPattern ∧ (m.unlists ≠ [] ∨ m.unsubscribed ≠ []))

variable {m : MailingLists} {c : Change}

theorem Change.source_of_voids (h : c.Voids m) : c.source = everyPattern := by
  rcases h with ⟨rfl, -⟩ | ⟨rfl, -⟩ <;> rfl

theorem IsCompiled.atomic_addList_everyPattern (h : m.IsCompiled engine)
    (hevery : engine.Rejects everyPattern) :
    Atomic m (m.addList engine everyPattern) ↔ ¬ Change.Voids m (.addList everyPattern) := by
  rw [h.addList_everyPattern hevery, atomic_rejected_iff, Change.Voids]
  cases m
  simp [eq_comm]

theorem IsCompiled.atomic_subscribe_everyPattern (h : m.IsCompiled engine)
    (hevery : engine.Rejects everyPattern) :
    Atomic m (m.subscribe engine everyPattern) ↔ ¬ Change.Voids m (.subscribe everyPattern) := by
  rw [h.subscribe_everyPattern hevery, atomic_rejected_iff, Change.Voids]
  cases m
  simp [eq_comm]

theorem IsCompiled.atomic_iff (h : m.IsCompiled engine) (hevery : engine.Rejects everyPattern)
    (c : Change) : Atomic m (m.perform engine c) ↔ ¬ c.Voids m := by
  by_cases hsource : c.source = everyPattern
  · cases c with
    | addList source =>
      obtain rfl : source = everyPattern := hsource
      exact h.atomic_addList_everyPattern hevery
    | removeList source =>
      obtain rfl : source = everyPattern := hsource
      have hatomic : Atomic m (m.removeList engine everyPattern) := by
        rw [removeList_everyPattern]
        exact atomic_of_accepted rfl
      exact iff_of_true hatomic fun hv => hv.elim (fun h => nomatch h.1) fun h => nomatch h.1
    | subscribe source =>
      obtain rfl : source = everyPattern := hsource
      exact h.atomic_subscribe_everyPattern hevery
    | unsubscribe source =>
      obtain rfl : source = everyPattern := hsource
      have hatomic : Atomic m (m.unsubscribe engine everyPattern) := by
        rw [unsubscribe_everyPattern]
        exact atomic_of_accepted rfl
      exact iff_of_true hatomic fun hv => hv.elim (fun h => nomatch h.1) fun h => nomatch h.1
  · refine iff_of_true ?_ fun hv => hsource (Change.source_of_voids hv)
    exact atomic_of_compile (fun _ hc => perform_of_pattern hc)
      fun hc => h.perform_of_none hc hsource

end MailingLists

/-- After any changes, one more that is rejected leaves all lists as they were, unless it adds the
    source that stands for every pattern while there are exceptions: this is always rejected, and the
    exceptions are gone. So it is with every engine that knows no pattern under that source. -/
theorem rejected_run (hevery : engine.Rejects everyPattern) (as : List Alternates.Change)
    (ms : List MailingLists.Change) :
    (∀ c, Atomic (Alternates.run engine as) ((Alternates.run engine as).perform engine c) ↔
      ¬ c.Voids (Alternates.run engine as)) ∧
    (∀ c, Atomic (MailingLists.run engine ms) ((MailingLists.run engine ms).perform engine c) ↔
      ¬ c.Voids (MailingLists.run engine ms)) ∧
    (Alternates.run engine as).add engine everyPattern =
      ({ Alternates.run engine as with exceptions := [] }, some .invalid) ∧
    (MailingLists.run engine ms).addList engine everyPattern =
      ({ MailingLists.run engine ms with unlists := [] }, some .invalid) ∧
    (MailingLists.run engine ms).subscribe engine everyPattern =
      ({ MailingLists.run engine ms with unlists := [], unsubscribed := [] }, some .invalid) := by
  have ha := Alternates.isCompiled_run engine as
  have hm := MailingLists.isCompiled_run engine ms
  exact ⟨ha.atomic_iff hevery, hm.atomic_iff hevery, ha.add_everyPattern hevery,
    hm.addList_everyPattern hevery, hm.subscribe_everyPattern hevery⟩

/-- The library's own engine knows no pattern under that source. -/
theorem standard_rejects : Pattern.Engine.standard.Rejects everyPattern :=
  Option.isNone_iff_eq_none.1 (by decide +kernel)

/-- A source that is no pattern, and the one that stands for every pattern, while there are exceptions:
    the first is rejected and changes nothing, the second takes the exceptions away. -/
theorem rejected_run_exceptions :
    let engine := Pattern.Engine.standard
    let a := Alternates.run engine [.remove ['a'], .add ['b']]
    let m := MailingLists.run engine [.removeList ['a'], .unsubscribe ['c']]
    engine.Rejects everyPattern ∧
      (a.perform engine (.add ['('])).2 = some .invalid ∧ (a.perform engine (.add ['('])).1 = a ∧
      a.exceptions.sources = [['a']] ∧
      a.add engine everyPattern = ({ a with exceptions := [] }, some .invalid) ∧
      m.unlists.sources = [['a']] ∧ m.unsubscribed.sources = [['c']] ∧
      m.subscribe engine everyPattern =
        ({ m with unlists := [], unsubscribed := [] }, some .invalid) := by
  intro engine a m
  have hrun := rejected_run standard_rejects [.remove ['a'], .add ['b']]
    [.removeList ['a'], .unsubscribe ['c']]
  have hrejected : (a.perform engine (.add ['('])).2 = some .invalid := by decide +kernel
  have hkept : ¬ Alternates.Change.Voids a (.add ['(']) := by
    rintro ⟨hsame, -⟩
    cases hsame
  refine ⟨standard_rejects, hrejected, (hrun.1 _).2 hkept ?_, by decide +kernel, hrun.2.2.1,
    by decide +kernel, by decide +kernel, hrun.2.2.2.2⟩
  rw [hrejected]
  exact Option.some_ne_none _

/-- One exception, and a source that is no pattern is added: it is rejected, the exception is gone. -/
theorem add_void :
    ¬ ∀ engine : Pattern.Engine, engine.Rejects everyPattern →
      ∀ (changes : List Alternates.Change) (c : Alternates.Change),
        Atomic (Alternates.run engine changes) ((Alternates.run engine changes).perform engine c) := by
  intro h
  have hatomic := h .standard standard_rejects [.remove ['a']] (.add everyPattern)
  have hrejected : ((Alternates.run .standard [.remove ['a']]).perform .standard
      (.add everyPattern)).2 ≠ none := by decide +kernel
  have hlength := congrArg (fun a : Alternates => a.exceptions.length) (hatomic hrejected)
  revert hlength
  decide +kernel

end Recipients
