import Recipients.Classification.Alternates
import Recipients.Classification.MailingLists
import Recipients.Proofs.Pattern.List

/-
  Alternates and mailing lists as they come about: `run` makes a series of changes to empty ones, with
  some engine. In every such state all lists hold compiled patterns only (`isCompiled_run`). So what a
  change can do depends on its source: it is a pattern, which is never rejected, or it is the source
  that stands for every pattern, or it is neither, and then the change is rejected and does nothing.
-/

namespace Recipients

open PatternList (everyPattern)

variable {engine : Pattern.Engine}

/-! ## Alternates -/

namespace Alternates

inductive Change where
  | add (source : Text)
  | remove (source : Text)
  deriving DecidableEq

/-- The source that a change is about. -/
def Change.source : Change → Text
  | .add source | .remove source => source

/-- Makes a change, and says whether it was rejected. -/
def perform (engine : Pattern.Engine) (a : Alternates) : Change → Alternates × Option PatternError
  | .add source => a.add engine source
  | .remove source => a.remove engine source

/-- The alternates after changes to empty ones; rejected changes count with what they did. -/
def run (engine : Pattern.Engine) (changes : List Change) : Alternates :=
  changes.foldl (fun a c => (a.perform engine c).1) {}

/-- All lists hold compiled patterns. -/
structure IsCompiled (engine : Pattern.Engine) (a : Alternates) : Prop where
  patterns : a.patterns.IsCompiled engine
  exceptions : a.exceptions.IsCompiled engine

variable {a : Alternates} {c : Change}

theorem IsCompiled.perform (h : a.IsCompiled engine) (c : Change) :
    (a.perform engine c).1.IsCompiled engine := by
  cases c with
  | add source => exact ⟨h.patterns.tryAdd source, h.exceptions.remove source⟩
  | remove source => exact ⟨h.patterns.remove source, h.exceptions.tryAddSingle source⟩

theorem isCompiled_run (engine : Pattern.Engine) (changes : List Change) :
    (run engine changes).IsCompiled engine :=
  List.foldlRecOn changes _ ⟨.nil, .nil⟩ fun _ h c _ => h.perform c

theorem perform_of_pattern {p : Pattern} (hc : Pattern.compile engine c.source true = some p) :
    (a.perform engine c).2 = none := by
  cases c with
  | add source => exact PatternList.tryAdd_snd_of_some hc
  | remove source => exact PatternList.tryAddSingle_snd_of_some hc

theorem IsCompiled.perform_of_none (h : a.IsCompiled engine)
    (hc : Pattern.compile engine c.source true = none) (hne : c.source ≠ everyPattern) :
    a.perform engine c = (a, some .invalid) := by
  cases c
  all_goals simp only [Change.source] at hc hne
  case add source =>
    rw [Alternates.perform, Alternates.add, h.patterns.tryAdd_of_none hc,
      h.exceptions.remove_eq hc hne]
  case remove source =>
    rw [Alternates.perform, Alternates.remove, PatternList.tryAddSingle_of_ne hne,
      h.exceptions.tryAdd_of_none hc, h.patterns.remove_eq hc hne]

theorem IsCompiled.add_everyPattern (h : a.IsCompiled engine) (hevery : engine.Rejects everyPattern) :
    a.add engine everyPattern = ({ a with exceptions := [] }, some .invalid) := by
  rw [Alternates.add, h.patterns.tryAdd_of_none hevery.compile_eq_none, PatternList.remove_everyPattern]

theorem remove_everyPattern (engine : Pattern.Engine) (a : Alternates) :
    a.remove engine everyPattern = ({ a with patterns := [] }, none) := by
  rw [Alternates.remove, PatternList.tryAddSingle_everyPattern, PatternList.remove_everyPattern]

end Alternates

/-! ## Mailing lists -/

namespace MailingLists

inductive Change where
  | addList (source : Text)
  | removeList (source : Text)
  | subscribe (source : Text)
  | unsubscribe (source : Text)
  deriving DecidableEq

/-- The source that a change is about. -/
def Change.source : Change → Text
  | .addList source | .removeList source | .subscribe source | .unsubscribe source => source

/-- Makes a change, and says whether it was rejected. -/
def perform (engine : Pattern.Engine) (m : MailingLists) :
    Change → MailingLists × Option PatternError
  | .addList source => m.addList engine source
  | .removeList source => m.removeList engine source
  | .subscribe source => m.subscribe engine source
  | .unsubscribe source => m.unsubscribe engine source

/-- The mailing lists after changes to empty ones; rejected changes count with what they did. -/
def run (engine : Pattern.Engine) (changes : List Change) : MailingLists :=
  changes.foldl (fun m c => (m.perform engine c).1) {}

/-- All lists hold compiled patterns. -/
structure IsCompiled (engine : Pattern.Engine) (m : MailingLists) : Prop where
  lists : m.lists.IsCompiled engine
  unlists : m.unlists.IsCompiled engine
  subscribed : m.subscribed.IsCompiled engine
  unsubscribed : m.unsubscribed.IsCompiled engine

variable {m : MailingLists} {c : Change}

/-- Subscribing ends with the known lists if these cannot take the source. -/
theorem subscribe_eq (engine : Pattern.Engine) (m : MailingLists) (source : Text) :
    m.subscribe engine source =
      ({ lists := (m.lists.tryAdd engine source).1
         unlists := m.unlists.remove source
         subscribed := if (m.lists.tryAdd engine source).2 = none
           then (m.subscribed.tryAdd engine source).1 else m.subscribed
         unsubscribed := m.unsubscribed.remove source },
        (m.lists.tryAdd engine source).2.or (m.subscribed.tryAdd engine source).2) := by
  rw [subscribe]
  cases m.lists.tryAdd engine source with
  | mk lists e => cases e <;> rfl

theorem IsCompiled.perform (h : m.IsCompiled engine) (c : Change) :
    (m.perform engine c).1.IsCompiled engine := by
  cases c with
  | addList source =>
    exact ⟨h.lists.tryAdd source, h.unlists.remove source, h.subscribed, h.unsubscribed⟩
  | removeList source =>
    exact ⟨h.lists.remove source, h.unlists.tryAddSingle source, h.subscribed.remove source,
      h.unsubscribed⟩
  | subscribe source =>
    rw [MailingLists.perform, subscribe_eq]
    refine ⟨h.lists.tryAdd source, h.unlists.remove source, ?_, h.unsubscribed.remove source⟩
    dsimp only
    split
    · exact h.subscribed.tryAdd source
    · exact h.subscribed
  | unsubscribe source =>
    exact ⟨h.lists, h.unlists, h.subscribed.remove source, h.unsubscribed.tryAddSingle source⟩

theorem isCompiled_run (engine : Pattern.Engine) (changes : List Change) :
    (run engine changes).IsCompiled engine :=
  List.foldlRecOn changes _ ⟨.nil, .nil, .nil, .nil⟩ fun _ h c _ => h.perform c

theorem perform_of_pattern {p : Pattern} (hc : Pattern.compile engine c.source true = some p) :
    (m.perform engine c).2 = none := by
  cases c with
  | addList source => exact PatternList.tryAdd_snd_of_some hc
  | removeList source => exact PatternList.tryAddSingle_snd_of_some hc
  | subscribe source =>
    have hadd (ps : PatternList) : (ps.tryAdd engine source).2 = none :=
      PatternList.tryAdd_snd_of_some hc
    rw [perform, subscribe_eq, hadd, hadd]
    rfl
  | unsubscribe source => exact PatternList.tryAddSingle_snd_of_some hc

theorem IsCompiled.perform_of_none (h : m.IsCompiled engine)
    (hc : Pattern.compile engine c.source true = none) (hne : c.source ≠ everyPattern) :
    m.perform engine c = (m, some .invalid) := by
  cases c
  all_goals simp only [Change.source] at hc hne
  case addList source =>
    rw [MailingLists.perform, MailingLists.addList, h.lists.tryAdd_of_none hc,
      h.unlists.remove_eq hc hne]
  case removeList source =>
    rw [MailingLists.perform, MailingLists.removeList, PatternList.tryAddSingle_of_ne hne,
      h.unlists.tryAdd_of_none hc, h.lists.remove_eq hc hne, h.subscribed.remove_eq hc hne]
  case subscribe source =>
    rw [MailingLists.perform, subscribe_eq, h.lists.tryAdd_of_none hc, h.unlists.remove_eq hc hne,
      h.unsubscribed.remove_eq hc hne]
    rfl
  case unsubscribe source =>
    rw [MailingLists.perform, MailingLists.unsubscribe, PatternList.tryAddSingle_of_ne hne,
      h.unsubscribed.tryAdd_of_none hc, h.subscribed.remove_eq hc hne]

theorem IsCompiled.addList_everyPattern (h : m.IsCompiled engine)
    (hevery : engine.Rejects everyPattern) :
    m.addList engine everyPattern = ({ m with unlists := [] }, some .invalid) := by
  rw [MailingLists.addList, h.lists.tryAdd_of_none hevery.compile_eq_none, PatternList.remove_everyPattern]

theorem IsCompiled.subscribe_everyPattern (h : m.IsCompiled engine)
    (hevery : engine.Rejects everyPattern) :
    m.subscribe engine everyPattern =
      ({ m with unlists := [], unsubscribed := [] }, some .invalid) := by
  rw [subscribe_eq, h.lists.tryAdd_of_none hevery.compile_eq_none, PatternList.remove_everyPattern,
    PatternList.remove_everyPattern]
  rfl

theorem removeList_everyPattern (engine : Pattern.Engine) (m : MailingLists) :
    m.removeList engine everyPattern = ({ m with lists := [], subscribed := [] }, none) := by
  rw [removeList, PatternList.tryAddSingle_everyPattern, PatternList.remove_everyPattern,
    PatternList.remove_everyPattern]

theorem unsubscribe_everyPattern (engine : Pattern.Engine) (m : MailingLists) :
    m.unsubscribe engine everyPattern = ({ m with subscribed := [] }, none) := by
  rw [unsubscribe, PatternList.tryAddSingle_everyPattern, PatternList.remove_everyPattern]

end MailingLists
end Recipients
