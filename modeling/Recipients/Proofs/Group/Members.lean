import Mathlib.Order.BooleanAlgebra.Set
import Recipients.Proofs.AddressList.Removal
import Recipients.Proofs.Group.Registry

/-
  Groups as sets. What matters of a group are the mailboxes in it, in small letters, and the sources
  of its patterns; a name without a group has neither. Every operation on a registry is an operation
  on these sets, name by name (`members_apply`), so after any series of operations a mailbox belongs
  to a group as the sets say (`isMatch_run`). Groups may come into being and go with nothing in
  them, and a list of entries may hold a mailbox twice or none at all: the sets do not see it. What is
  a pattern, and what it matches, is up to the engine, which may be any.
-/

namespace Recipients

/-- The mailboxes of a group in small letters, and the sources of its patterns. -/
@[ext]
structure Members where
  mailboxes : Set Text
  sources : Set Text

namespace Members

def none : Members := ⟨∅, ∅⟩

/-- Whether the members take in a mailbox: one of the patterns matches, or it is there itself. -/
def TakeIn (engine : Pattern.Engine) (m : Members) (mailbox : Text) : Prop :=
  (∃ source ∈ m.sources, ∃ p, Pattern.compile engine source true = some p ∧
    p.isMatch mailbox = true) ∨ mailbox.lower ∈ m.mailboxes

def addMailboxes (l : AddressList) (m : Members) : Members :=
  { m with mailboxes := m.mailboxes ∪ {k | k ∈ l.folded} }

def removeMailboxes (l : AddressList) (m : Members) : Members :=
  { m with mailboxes := m.mailboxes \ {k | k ∈ l.folded} }

/-- A source that is no pattern is not added. -/
def addSource (engine : Pattern.Engine) (source : Text) (m : Members) : Members :=
  if (Pattern.compile engine source true).isSome
    then { m with sources := insert source m.sources } else m

def removeSource (source : Text) (m : Members) : Members :=
  { m with sources := if source = PatternList.everyPattern then ∅ else m.sources \ {source} }

theorem addSource_addSource (engine : Pattern.Engine) (source : Text) (m : Members) :
    (m.addSource engine source).addSource engine source = m.addSource engine source := by
  unfold addSource
  split
  · exact Members.ext rfl (Set.insert_idem source m.sources)
  · rfl

end Members

namespace GroupRegistry

/-- An operation on a registry; those that a command does with several groups have their names. -/
inductive Change where
  | name (ns : GroupNames) (name : Text)
  | find (name : Text)
  | addAddresses (ns : GroupNames) (l : AddressList)
  | removeAddresses (ns : GroupNames) (l : AddressList)
  | addPattern (ns : GroupNames) (source : Text)
  | removePattern (ns : GroupNames) (source : Text)
  | removeEmpty (ns : GroupNames)
  | clear (ns : GroupNames)
  | remove (name : Text)

def apply (engine : Pattern.Engine) (r : GroupRegistry) : Change → GroupRegistry
  | .name ns name => (ns.add r name).2
  | .find name => r.found name
  | .addAddresses ns l => ns.addAddresses r l
  | .removeAddresses ns l => ns.removeAddresses r l
  | .addPattern ns source => (ns.addPattern engine r source).1
  | .removePattern ns source => (ns.removePattern r source).1
  | .removeEmpty ns => ns.removeEmpty r
  | .clear ns => ns.clear r
  | .remove name => r.remove name

/-- A registry as it comes about, by operations on an empty one. -/
def run (engine : Pattern.Engine) (changes : List Change) : GroupRegistry :=
  changes.foldl (apply engine) []

end GroupRegistry

/-- What an operation does to the members of the group `name`. -/
def Members.apply (engine : Pattern.Engine) (name : Text) (m : Members) :
    GroupRegistry.Change → Members
  | .name _ _ | .find _ | .removeEmpty _ => m
  | .addAddresses ns l => if name ∈ ns then m.addMailboxes l else m
  | .removeAddresses ns l => if name ∈ ns then m.removeMailboxes l else m
  | .addPattern ns source => if name ∈ ns then m.addSource engine source else m
  | .removePattern ns source => if name ∈ ns then m.removeSource source else m
  | .clear ns => if name ∈ ns then .none else m
  | .remove other => if name = other then .none else m

def Members.run (engine : Pattern.Engine) (name : Text) (changes : List GroupRegistry.Change) :
    Members :=
  changes.foldl (Members.apply engine name) .none

variable {engine : Pattern.Engine}

/-! ## The members of a group -/

namespace Group

def members (g : Group) : Members where
  mailboxes := {k | k ∈ g.addresses.folded}
  sources := {s | s ∈ g.patterns.sources}

/-- Every pattern of the group is what its source is read as. -/
def IsCompiled (engine : Pattern.Engine) (g : Group) : Prop := g.patterns.IsCompiled engine

theorem members_of_isEmpty {g : Group} (h : g.isEmpty = true) : g.members = .none := by
  rw [isEmpty, Bool.and_eq_true, List.isEmpty_iff, List.isEmpty_iff] at h
  rw [members, h.1, h.2]
  simp [AddressList.folded, AddressList.mailboxes, PatternList.sources, Members.none]

theorem members_addAddresses (g : Group) (l : AddressList) :
    (g.addAddresses l).members = g.members.addMailboxes l := by
  refine Members.ext ?_ rfl
  ext k
  show k ∈ AddressList.folded _ ↔ k ∈ AddressList.folded _ ∨ k ∈ AddressList.folded _
  -- An entry that is left out has its mailbox among the addresses already.
  rw [addAddresses, AddressList.folded_append, AddressList.folded_without, List.mem_append,
    List.mem_filter, decide_eq_true_iff]
  exact or_congr_right' fun hk => and_iff_left hk

theorem members_removeAddresses (g : Group) (l : AddressList) :
    (g.removeAddresses l).members = g.members.removeMailboxes l := by
  refine Members.ext ?_ rfl
  ext k
  show k ∈ AddressList.folded _ ↔ k ∈ AddressList.folded _ ∧ k ∉ AddressList.folded _
  rw [removeAddresses, AddressList.folded_foldl_remove, List.mem_filter, decide_eq_true_iff]
  rfl

theorem members_removePattern (g : Group) (source : Text) :
    (g.removePattern source).members = g.members.removeSource source := by
  refine Members.ext rfl ?_
  ext s
  show s ∈ PatternList.sources (PatternList.remove _ source) ↔ s ∈ ite _ _ _
  rw [PatternList.remove]
  split
  · exact List.mem_nil_iff _
  · simp only [PatternList.sources, List.mem_map, List.mem_filter, bne_iff_ne]
    constructor
    · rintro ⟨p, ⟨hp, hne⟩, rfl⟩
      exact ⟨List.mem_map_of_mem hp, hne⟩
    · rintro ⟨hs, hne⟩
      obtain ⟨p, hp, rfl⟩ := List.mem_map.1 hs
      exact ⟨p, ⟨hp, hne⟩, rfl⟩

theorem IsCompiled.removePattern {g : Group} (h : g.IsCompiled engine) (source : Text) :
    (g.removePattern source).IsCompiled engine :=
  PatternList.IsCompiled.remove h source

theorem members_addPattern (engine : Pattern.Engine) (g : Group) (source : Text) :
    (g.addPattern engine source).1.members = g.members.addSource engine source := by
  rw [Members.addSource]
  obtain ⟨hmem, h⟩ | ⟨-, hsource, h⟩ | ⟨p, hsource, hp, h⟩ := g.addPattern_cases engine source
  · have hmem : source ∈ g.members.sources := hmem
    rw [h]
    split
    · exact Members.ext rfl (Set.insert_eq_of_mem hmem).symm
    · rfl
  · rw [h, hsource]
    rfl
  · rw [h, hsource, if_pos Option.isSome_some]
    refine Members.ext rfl ?_
    ext s
    show s ∈ PatternList.sources (g.patterns ++ [p]) ↔ s = source ∨ s ∈ g.patterns.sources
    rw [PatternList.sources, List.map_append, List.mem_append, List.map_singleton,
      List.mem_singleton, hp, or_comm]
    rfl

theorem IsCompiled.addPattern {g : Group} (h : g.IsCompiled engine) (source : Text) :
    (g.addPattern engine source).1.IsCompiled engine :=
  PatternList.IsCompiled.tryAdd h source

/-- A group of compiled patterns cannot take a source that is no pattern. -/
theorem IsCompiled.addPattern_snd {g : Group} (h : g.IsCompiled engine) (source : Text) :
    (g.addPattern engine source).2 =
      if (Pattern.compile engine source true).isSome then none else some .invalid :=
  PatternList.IsCompiled.tryAdd_snd h source

theorem IsCompiled.isMatch_iff {g : Group} (h : g.IsCompiled engine) (mailbox : Text) :
    g.isMatch mailbox = true ↔ g.members.TakeIn engine mailbox := by
  have hpatterns : g.patterns.isMatch mailbox = true ↔
      ∃ source ∈ g.members.sources, ∃ p, Pattern.compile engine source true = some p ∧
        p.isMatch mailbox = true := by
    rw [PatternList.isMatch, List.any_eq_true]
    constructor
    · rintro ⟨p, hp, hmatch⟩
      exact ⟨p.source, List.mem_map_of_mem hp, p, h p hp, hmatch⟩
    · rintro ⟨_, hmem, p, hp, hmatch⟩
      obtain ⟨q, hq, rfl⟩ := List.mem_map.1 hmem
      rw [h q hq, Option.some_inj] at hp
      exact ⟨q, hq, hp ▸ hmatch⟩
  have haddresses : (g.addresses.any (AddressList.hasMailbox mailbox)) = true ↔
      mailbox.lower ∈ g.addresses.folded := by
    rw [List.any_eq_true, AddressList.mem_folded]
    simp only [AddressList.hasMailbox, Option.any_eq_true, Text.alike_iff]
  rw [isMatch, Bool.or_eq_true, hpatterns, haddresses]
  rfl

end Group

/-! ## The members of a registry's groups -/

namespace GroupRegistry

/-- The members of the group with a name. -/
def members (r : GroupRegistry) (name : Text) : Members := (r.get name).members

def IsCompiled (engine : Pattern.Engine) (r : GroupRegistry) : Prop :=
  ∀ g ∈ r, g.IsCompiled engine

theorem members_eq (r : GroupRegistry) (name : Text) :
    r.members name = ((r.get? name).map Group.members).getD .none := by
  cases h : r.get? name with
  | none =>
    rw [members, get_of_get?_none h]
    exact Group.members_of_isEmpty rfl
  | some g => rw [members, get_of_get? h, Option.map_some, Option.getD_some]

/-- A group that goes because nothing is in it has no members to lose. -/
theorem getD_members_filter (g : Option Group) :
    ((g.filter fun g => !g.isEmpty).map Group.members).getD .none =
      (g.map Group.members).getD .none := by
  cases g with
  | none => rfl
  | some g =>
    rw [Option.filter_some]
    cases h : g.isEmpty with
    | false => rfl
    | true => exact (Group.members_of_isEmpty h).symm

theorem members_put (r : GroupRegistry) (g : Group) (name : Text) :
    (r.put g).members name = if name = g.name then g.members else r.members name := by
  rw [members_eq, get?_put]
  split
  · rfl
  · rw [members_eq]

/-- A change to the group with a name, which comes into being if there is none. -/
theorem members_put_get (r : GroupRegistry) (name n : Text) (f : Group → Group)
    {change : Members → Members} (hname : ∀ g, (f g).name = g.name)
    (hchange : ∀ g, (f g).members = change g.members) :
    (r.put (f (r.get name))).members n =
      if n = name then change (r.members n) else r.members n := by
  rw [members_put, hname, get_name, hchange]
  split
  · rename_i hn
    rw [hn, members]
  · rfl

theorem members_found (r : GroupRegistry) (name : Text) : (r.found name).members = r.members := by
  funext n
  have hput := @members_put_get r name n id id (fun _ => rfl) fun _ => rfl
  rwa [id, id, ite_self] at hput

theorem members_remove (r : GroupRegistry) (name n : Text) :
    (r.remove name).members n = if n = name then .none else r.members n := by
  rw [members_eq, get?_remove]
  split
  · rfl
  · rw [members_eq]

theorem members_removeIfEmpty (r : GroupRegistry) (name : Text) :
    (r.removeIfEmpty name).members = r.members := by
  funext n
  rw [members_eq, members_eq, get?_removeIfEmpty]
  split
  · exact getD_members_filter _
  · rfl

theorem members_shrink (r : GroupRegistry) (name n : Text) {f : Group → Group}
    {change : Members → Members} (hname : ∀ g, (f g).name = g.name)
    (hchange : ∀ g, (f g).members = change g.members) (hnone : change .none = .none) :
    (r.shrink name f).members n = if n = name then change (r.members n) else r.members n := by
  rw [members_eq, members_eq, get?_shrink r name n hname]
  split
  · rw [getD_members_filter]
    cases r.get? n with
    | none => exact hnone.symm
    | some g => exact hchange g
  · rfl

/-- A change to one group after the other is the change to each of them, once it is the same to
    make it twice. -/
theorem members_foldl {step : GroupRegistry → Text → GroupRegistry} {change : Members → Members}
    (hstep : ∀ r name n,
      (step r name).members n = if n = name then change (r.members n) else r.members n)
    (htwice : ∀ m, change (change m) = change m) (ns : GroupNames) (r : GroupRegistry) (n : Text) :
    (ns.foldl step r).members n = if n ∈ ns then change (r.members n) else r.members n := by
  induction ns generalizing r with
  | nil => rfl
  | cons name ns ih =>
    rw [List.foldl_cons, ih, hstep]
    by_cases hn : n = name
    · simp [hn, htwice]
    · simp [hn]

theorem members_addAddresses (ns : GroupNames) (r : GroupRegistry) (l : AddressList) (n : Text) :
    (ns.addAddresses r l).members n =
      if n ∈ ns then (r.members n).addMailboxes l else r.members n := by
  refine members_foldl (fun r name n => ?_) (fun m => ?_) ns r n
  · exact members_put_get r name n (·.addAddresses l) (fun _ => rfl) (Group.members_addAddresses · l)
  · exact Members.ext (by simp [Members.addMailboxes, Set.union_assoc]) rfl

theorem members_removeAddresses (ns : GroupNames) (r : GroupRegistry) (l : AddressList) (n : Text) :
    (ns.removeAddresses r l).members n =
      if n ∈ ns then (r.members n).removeMailboxes l else r.members n := by
  refine members_foldl (fun r name n => ?_) (fun m => ?_) ns r n
  · refine members_shrink r name n (fun _ => rfl) (Group.members_removeAddresses · l) ?_
    exact Members.ext (Set.empty_sdiff _) rfl
  · exact Members.ext sdiff_idem rfl

theorem members_addPattern (engine : Pattern.Engine) (ns : GroupNames) (r : GroupRegistry)
    (source n : Text) :
    (ns.addPattern engine r source).1.members n =
      if n ∈ ns then (r.members n).addSource engine source else r.members n := by
  induction ns generalizing r with
  | nil => rfl
  | cons name ns ih =>
    have hfirst := members_put_get r name n (fun g => (g.addPattern engine source).1)
      (fun _ => rfl) (Group.members_addPattern engine · source)
    rw [GroupNames.addPattern]
    obtain ⟨-, h⟩ | ⟨-, hsource, h⟩ | ⟨p, -, -, h⟩ := (r.get name).addPattern_cases engine source
    all_goals rw [h] at hfirst ⊢
    · rw [ih, hfirst]
      by_cases hn : n = name <;> simp [hn, Members.addSource_addSource]
    · -- The groups after this one are not reached, but the source is nothing to add there either.
      simp only [Members.addSource, hsource, Option.isSome_none, Bool.false_eq_true, if_false,
        ite_self] at hfirst ⊢
      exact hfirst
    · rw [ih, hfirst]
      by_cases hn : n = name <;> simp [hn, Members.addSource_addSource]

theorem members_removePattern (ns : GroupNames) (r : GroupRegistry) (source n : Text) :
    (ns.removePattern r source).1.members n =
      if n ∈ ns then (r.members n).removeSource source else r.members n := by
  rw [GroupNames.removePattern_fst]
  refine members_foldl (fun r name n => ?_) (fun m => ?_) ns r n
  · refine members_shrink r name n (fun _ => rfl) (Group.members_removePattern · source) ?_
    exact Members.ext rfl (by simp [Members.removeSource, Members.none])
  · refine Members.ext rfl ?_
    by_cases hall : source = PatternList.everyPattern <;> simp [Members.removeSource, hall]

theorem members_removeEmpty (ns : GroupNames) (r : GroupRegistry) :
    (ns.removeEmpty r).members = r.members := by
  have hstep (r name n) : (removeIfEmpty r name).members n =
      if n = name then id (r.members n) else r.members n := by
    rw [members_removeIfEmpty, id, ite_self]
  funext n
  have hfold := members_foldl hstep (fun _ => rfl) ns r n
  rwa [id, ite_self] at hfold

theorem members_clear (ns : GroupNames) (r : GroupRegistry) (n : Text) :
    (ns.clear r).members n = if n ∈ ns then .none else r.members n :=
  @members_foldl remove (fun _ => .none) members_remove (fun _ => rfl) ns r n

/-! ## Properties of all groups -/

/-- Every group has the property. -/
def All (Q : Group → Prop) (r : GroupRegistry) : Prop := ∀ g ∈ r, Q g

section All

variable {Q : Group → Prop} {r : GroupRegistry}

theorem All.get (h : r.All Q) (hnew : ∀ name, Q { name }) (name : Text) : Q (r.get name) := by
  cases hg : r.get? name with
  | none =>
    rw [get_of_get?_none hg]
    exact hnew name
  | some g =>
    rw [get_of_get? hg]
    exact h g (mem_of_get? hg)

theorem All.put (h : r.All Q) {g : Group} (hg : Q g) : (r.put g).All Q := by
  intro g' hg'
  rcases mem_put hg' with rfl | ⟨hr, _⟩
  · exact hg
  · exact h g' hr

theorem All.mono (h : r.All Q) {r' : GroupRegistry} (hsub : r' ⊆ r) : r'.All Q :=
  fun g hg => h g (hsub hg)

theorem All.shrink (h : r.All Q) (name : Text) {f : Group → Group} (hf : ∀ g, Q g → Q (f g)) :
    (r.shrink name f).All Q := by
  unfold GroupRegistry.shrink
  split
  · rename_i g hg
    exact (h.put (hf g (h g (mem_of_get? hg)))).mono (removeIfEmpty_subset _ _)
  · exact h

theorem All.foldl {step : GroupRegistry → Text → GroupRegistry}
    (hstep : ∀ r name, r.All Q → (step r name).All Q) (h : r.All Q) (ns : GroupNames) :
    (ns.foldl step r).All Q :=
  List.foldlRecOn ns step h fun r hr name _ => hstep r name hr

theorem All.addPattern (hnew : ∀ name, Q { name }) {source : Text}
    (hadd : ∀ g, Q g → Q (g.addPattern engine source).1) (h : r.All Q) (ns : GroupNames) :
    (ns.addPattern engine r source).1.All Q := by
  induction ns generalizing r with
  | nil => exact h
  | cons name ns ih =>
    have hput := h.put (hadd _ (h.get hnew name))
    rw [GroupNames.addPattern]
    split
    · rename_i g hg
      rw [hg] at hput
      exact ih hput
    · rename_i g e hg
      rw [hg] at hput
      exact hput

/-- What a new group has, and the operations on one group keep, the operations on a registry keep. -/
theorem All.apply (hnew : ∀ name, Q { name }) (change : Change)
    (haddAddresses : ∀ ns l, change = .addAddresses ns l → ∀ g, Q g → Q (g.addAddresses l))
    (hremoveAddresses : ∀ l g, Q g → Q (g.removeAddresses l))
    (haddPattern : ∀ source g, Q g → Q (g.addPattern engine source).1)
    (hremovePattern : ∀ source g, Q g → Q (g.removePattern source)) (h : r.All Q) :
    (r.apply engine change).All Q := by
  cases change with
  | name ns name => exact h.put (h.get hnew name)
  | find name => exact h.put (h.get hnew name)
  | addAddresses ns l =>
    refine All.foldl (fun r name hr => ?_) h ns
    exact hr.put (haddAddresses ns l rfl _ (hr.get hnew name))
  | removeAddresses ns l =>
    refine All.foldl (fun r name hr => ?_) h ns
    exact hr.shrink name (hremoveAddresses l)
  | addPattern ns source => exact h.addPattern hnew (haddPattern source) ns
  | removePattern ns source =>
    show ((ns.removePattern r source).1).All Q
    rw [GroupNames.removePattern_fst]
    exact All.foldl (fun _ name hr => hr.shrink name (hremovePattern source)) h ns
  | removeEmpty ns =>
    exact All.foldl (fun _ name hr => hr.mono (removeIfEmpty_subset _ name)) h ns
  | clear ns => exact All.foldl (fun _ _ hr => hr.mono fun _ hg => (mem_remove.1 hg).1) h ns
  | remove name => exact h.mono fun _ hg => (mem_remove.1 hg).1

end All

/-! ## Patterns that groups can take -/

theorem IsCompiled.get {r : GroupRegistry} (h : r.IsCompiled engine) (name : Text) :
    (r.get name).IsCompiled engine :=
  All.get h (fun _ _ hp => absurd hp List.not_mem_nil) name

theorem IsCompiled.put {r : GroupRegistry} (h : r.IsCompiled engine) {g : Group}
    (hg : g.IsCompiled engine) : (r.put g).IsCompiled engine := All.put h hg

/-- Adding a pattern fails when it reaches a group and the source is no pattern. -/
theorem IsCompiled.addPattern_snd {r : GroupRegistry} (h : r.IsCompiled engine) (ns : GroupNames)
    (source : Text) :
    (ns.addPattern engine r source).2 =
      if ns = [] ∨ (Pattern.compile engine source true).isSome then none else some .invalid := by
  induction ns generalizing r with
  | nil => rfl
  | cons name ns ih =>
    have hsnd := (h.get name).addPattern_snd source
    have hput := h.put ((h.get name).addPattern source)
    rw [GroupNames.addPattern]
    generalize (r.get name).addPattern engine source = added at hput hsnd ⊢
    obtain ⟨g, e⟩ := added
    obtain rfl : e = _ := hsnd
    cases hsource : (Pattern.compile engine source true).isSome with
    | true =>
      show (GroupNames.addPattern engine ns (r.put g) source).2 = _
      rw [ih hput, hsource, if_pos (.inr rfl), if_pos (.inr rfl)]
    | false => rfl

theorem IsCompiled.apply {r : GroupRegistry} (h : r.IsCompiled engine) (change : Change) :
    (r.apply engine change).IsCompiled engine :=
  All.apply (Q := Group.IsCompiled engine) (fun _ _ hp => absurd hp List.not_mem_nil) change
    (fun _ _ _ _ hg => hg) (fun _ _ hg => hg) (fun source _ hg => hg.addPattern source)
    (fun source _ hg => hg.removePattern source) h

/-! ## Runs -/

/-- One operation on the registry is that operation on the members of every group. -/
theorem members_apply (r : GroupRegistry) (change : Change) (n : Text) :
    (r.apply engine change).members n = (r.members n).apply engine n change := by
  cases change with
  | name ns name => exact congrFun (members_found r name) n
  | find name => exact congrFun (members_found r name) n
  | addAddresses ns l => exact members_addAddresses ns r l n
  | removeAddresses ns l => exact members_removeAddresses ns r l n
  | addPattern ns source => exact members_addPattern engine ns r source n
  | removePattern ns source => exact members_removePattern ns r source n
  | removeEmpty ns => exact congrFun (members_removeEmpty ns r) n
  | clear ns => exact members_clear ns r n
  | remove name => exact members_remove r name n

theorem members_run (changes : List Change) (n : Text) :
    (run engine changes).members n = Members.run engine n changes := by
  have hrun (r : GroupRegistry) : (changes.foldl (apply engine) r).members n =
      changes.foldl (Members.apply engine n) (r.members n) := by
    induction changes generalizing r with
    | nil => rfl
    | cons change changes ih => rw [List.foldl_cons, List.foldl_cons, ih, members_apply]
  rw [run, hrun, members_eq]
  rfl

theorem isCompiled_run (engine : Pattern.Engine) (changes : List Change) :
    (run engine changes).IsCompiled engine :=
  List.foldlRecOn changes (apply engine) (fun _ hg => absurd hg List.not_mem_nil)
    fun _ hr change _ => hr.apply change

/-- After any operations, the group with a name takes in the mailboxes that the same operations on
    sets say, and adding a pattern fails where a group is to take a source that is no pattern. -/
theorem isMatch_run (engine : Pattern.Engine) (changes : List Change) :
    (∀ name mailbox, (run engine changes).isMatch name mailbox = true ↔
      (Members.run engine name changes).TakeIn engine mailbox) ∧
      ∀ ns source, (GroupNames.addPattern engine ns (run engine changes) source).2 =
        if ns = [] ∨ (Pattern.compile engine source true).isSome then none else some .invalid := by
  refine ⟨fun name mailbox => ?_, (isCompiled_run engine changes).addPattern_snd⟩
  have hget := ((isCompiled_run engine changes).get name).isMatch_iff mailbox
  rw [← members_run]
  refine Iff.trans ?_ hget
  cases hg : (run engine changes).get? name with
  | none => rw [isMatch, get_of_get?_none hg, hg]; rfl
  | some g => rw [isMatch, get_of_get? hg, hg, Option.any_some]

end GroupRegistry
end Recipients
