import Recipients.Proofs.Alias.Listing

/-
  What observers of a registry learn. A session is a registry with its observers. They subscribe
  between the changes and leave at any time, also between two events of one change; every event is sent
  to all of them, and those who are gone are forgotten by then. An observer who stays has what a watch
  from the same moment has seen, whatever the others do (`Tracks`), and replaying that on the names from
  the beginning leads to the names at the end (`replay_received`).

  A change without an event leaves the aliases. The converse does not hold: a redefinition is always
  announced, also one by the definition that the alias has (`sent_same_definition`).
-/

namespace Recipients

/-! ## Replaying events -/

namespace AliasEvent

/-- The names after an event; `none` if the event does not fit them. -/
def onNames (names : List Text) : AliasEvent → Option (List Text)
  | .added n => some (names ++ [n])
  | .changed n => if n ∈ names then some names else none
  | .deleted n => if n ∈ names then some (names.erase n) else none

/-- The names after events, each of which has to fit. -/
def replay (names : List Text) (events : List AliasEvent) : Option (List Text) :=
  events.foldlM onNames names

theorem replay_cons (names : List Text) (e : AliasEvent) (es : List AliasEvent) :
    replay names (e :: es) = (e.onNames names).bind fun ns => replay ns es :=
  List.foldlM_cons

theorem replay_singleton (names : List Text) (e : AliasEvent) : replay names [e] = e.onNames names := by
  rw [replay_cons]
  exact Option.bind_fun_some (e.onNames names)

theorem replay_append (names : List Text) (es fs : List AliasEvent) :
    replay names (es ++ fs) = (replay names es).bind fun ns => replay ns fs :=
  List.foldlM_append

theorem replay_deleted (names : List Text) : replay names (names.map .deleted) = some [] := by
  induction names with
  | nil => rfl
  | cons n ns ih =>
    have hhead : onNames (n :: ns) (.deleted n) = some ns := by
      rw [onNames, if_pos List.mem_cons_self, List.erase_cons_head]
    rw [List.map_cons, replay_cons, hhead]
    exact ih

end AliasEvent

/-! ## What a change announces -/

namespace AliasRegistry

open AliasEvent (replay replay_append replay_singleton replay_deleted)

variable {r : AliasRegistry} {a old : Alias} {name : Text} {c : Change}

/-- The events of a change. -/
def sent (r : AliasRegistry) (c : Change) : List AliasEvent :=
  (AliasWatch.startOn r).seen (r.apply c)

/-- The change gives an alias that exists a definition. -/
def Change.Redefines (r : AliasRegistry) : Change → Prop
  | .redefine a | .define a => (r.get? a.name).isSome
  | _ => False

theorem sent_of_history {es : List AliasEvent} (h : (r.apply c).history = r.history ++ es) :
    r.sent c = es := by
  rw [sent, AliasWatch.seen, AliasWatch.startOn, h, List.drop_left]

theorem sent_of_same (h : r.apply c = r) : r.sent c = [] :=
  sent_of_history (by rw [h, List.append_nil])

theorem sent_of_append (h : r.apply c = r.append a) : r.sent c = [.added a.name] :=
  sent_of_history (by rw [h]; rfl)

theorem sent_of_replace (h : r.apply c = r.replace old a) : r.sent c = [.changed old.name] :=
  sent_of_history (by rw [h]; rfl)

theorem sent_of_delete (hfound : r.get? name = some old) (h : r.apply c = r.delete name) :
    r.sent c = [.deleted old.name] :=
  sent_of_history (by rw [h, delete_of_get? hfound])

theorem sent_of_deleteAll (h : r.apply c = r.deleteAll) : r.sent c = r.names.map .deleted := by
  refine sent_of_history ?_
  rw [h, names, List.map_map]
  rfl

/-- A change that fails announces nothing. -/
theorem sent_of_error {e : AliasError} (h : (r.perform c).2 = some e) : r.sent c = [] :=
  sent_of_same (apply_of_error h)

theorem history_append_sent (r : AliasRegistry) (c : Change) :
    (r.apply c).history = r.history ++ r.sent c := by
  obtain ⟨es, h⟩ : ∃ es, (r.apply c).history = r.history ++ es := by
    rcases apply_cases r c with hc | ⟨a, -, hc⟩ | ⟨old, a, -, hc⟩ | ⟨name, old, hfound, hc⟩ | hc
    · exact ⟨[], by rw [hc, List.append_nil]⟩
    · exact ⟨_, by rw [hc]; rfl⟩
    · exact ⟨_, by rw [hc]; rfl⟩
    · exact ⟨_, by rw [hc, delete_of_get? hfound]⟩
    · exact ⟨_, by rw [hc]; rfl⟩
  rw [sent_of_history h, h]

/-- A watch sees the events of a change after those that it has seen. -/
theorem seen_apply {w : AliasWatch} (h : w.start ≤ r.history.length) (c : Change) :
    w.seen (r.apply c) = w.seen r ++ r.sent c := by
  rw [AliasWatch.seen, history_append_sent, List.drop_append_of_le_length h]
  rfl

theorem history_length_le (r : AliasRegistry) (c : Change) :
    r.history.length ≤ (r.apply c).history.length := by
  rw [history_append_sent, List.length_append]
  exact Nat.le_add_right _ _

theorem names_split {before after : List Alias} (h : Alias.Distinct r.aliases)
    (haliases : r.aliases = before ++ old :: after) :
    old.name ∈ r.names ∧ r.names.erase old.name = (before ++ after).map Alias.name := by
  have hnodup : r.names.Nodup := by
    refine List.Nodup.of_map Text.lower ?_
    rw [names, List.map_map]
    exact h
  have hnames : r.names = before.map Alias.name ++ old.name :: after.map Alias.name := by
    rw [names, haliases, List.map_append, List.map_cons]
  have hfresh : old.name ∉ before.map Alias.name := by
    rw [hnames, List.nodup_append] at hnodup
    exact fun hmem => hnodup.2.2 _ hmem _ List.mem_cons_self rfl
  rw [hnames, List.erase_append_right _ hfresh, List.erase_cons_head, List.map_append]
  exact ⟨List.mem_append_right _ List.mem_cons_self, rfl⟩

/-- The events of a change lead from the names before it to the names after it. -/
theorem replay_sent (h : Alias.Distinct r.aliases) (c : Change) :
    replay r.names (r.sent c) = some (r.apply c).names := by
  rcases apply_cases r c with hc | ⟨a, -, hc⟩ | ⟨old, a, hfound, hc⟩ | ⟨name, old, hfound, hc⟩ | hc
  · rw [sent_of_same hc, hc]
    rfl
  · rw [sent_of_append hc, hc, replay_singleton, AliasEvent.onNames, names, names, append,
      List.map_append]
    rfl
  · obtain ⟨before, after, haliases, hbefore, hafter⟩ := Alias.exists_split h hfound
    have hold := Alias.isNamed_of_find? hfound
    obtain ⟨hmem, -⟩ := names_split h haliases
    rw [sent_of_replace hc, hc, replay_singleton, AliasEvent.onNames, if_pos hmem, names, names,
      replace_aliases h hfound, haliases, Listing.redefine_split hbefore hold hafter,
      List.map_append, List.map_append, List.map_cons, List.map_cons]
  · obtain ⟨before, after, haliases, hbefore, hafter⟩ := Alias.exists_split h hfound
    have hold := Alias.isNamed_of_find? hfound
    obtain ⟨hmem, herase⟩ := names_split h haliases
    rw [sent_of_delete hfound hc, hc, replay_singleton, AliasEvent.onNames, if_pos hmem, herase,
      names, delete_aliases h, haliases, Listing.filter_split hbefore hold hafter]
  · rw [sent_of_deleteAll hc, hc, replay_deleted]
    rfl

theorem append_aliases_ne (r : AliasRegistry) (a : Alias) : (r.append a).aliases ≠ r.aliases :=
  fun h => List.cons_ne_nil a [] (List.append_right_eq_self.1 h)

theorem delete_aliases_ne (hfound : r.get? name = some old) : (r.delete name).aliases ≠ r.aliases := by
  have hold : old ∈ r.aliases := List.mem_of_find?_eq_some hfound
  have hshorter : (r.aliases.eraseP (·.isNamed name)).length = r.aliases.length - 1 :=
    List.length_eraseP_of_mem hold (Alias.isNamed_of_find? hfound)
  have hpos := List.length_pos_of_mem hold
  have hrest : (r.delete name).aliases = r.aliases.eraseP (·.isNamed name) := by
    rw [delete_of_get? hfound]
  rw [hrest]
  intro h
  rw [h] at hshorter
  omega

/-- A change announces nothing exactly if it leaves the aliases and is no redefinition of one. -/
theorem sent_eq_nil_iff (r : AliasRegistry) (c : Change) :
    r.sent c = [] ↔ (r.apply c).aliases = r.aliases ∧ ¬ c.Redefines r := by
  have hsame (h : r.apply c = r) (hc : ¬ c.Redefines r) :
      r.sent c = [] ↔ (r.apply c).aliases = r.aliases ∧ ¬ c.Redefines r :=
    iff_of_true (sent_of_same h) ⟨by rw [h], hc⟩
  have hnews {e : AliasEvent} (h : r.sent c = [e])
      (hc : (r.apply c).aliases ≠ r.aliases ∨ c.Redefines r) :
      r.sent c = [] ↔ (r.apply c).aliases = r.aliases ∧ ¬ c.Redefines r := by
    rw [h]
    exact iff_of_false (List.cons_ne_nil _ _) fun hn => hc.elim (· hn.1) hn.2
  cases c with
  | create a =>
    cases hfound : r.get? a.name with
    | some old => exact hsame (apply_of_found hfound).1 id
    | none =>
      have hc := (apply_of_free hfound).1
      exact hnews (sent_of_append hc) (.inl (hc ▸ append_aliases_ne r a))
  | redefine a =>
    cases hfound : r.get? a.name with
    | some old =>
      exact hnews (sent_of_replace (apply_of_found hfound).2.1) (.inr (Option.isSome_of_eq_some hfound))
    | none =>
      refine hsame (apply_of_free hfound).2.1 ?_
      rw [Change.Redefines, hfound]
      exact Bool.false_ne_true
  | define a =>
    cases hfound : r.get? a.name with
    | some old =>
      exact hnews (sent_of_replace (apply_of_found hfound).2.2) (.inr (Option.isSome_of_eq_some hfound))
    | none =>
      have hc := (apply_of_free hfound).2.2
      exact hnews (sent_of_append hc) (.inl (hc ▸ append_aliases_ne r a))
  | delete name =>
    cases hfound : r.get? name with
    | some old => exact hnews (sent_of_delete hfound rfl) (.inl (delete_aliases_ne hfound))
    | none => exact hsame (apply_delete_of_free hfound) id
  | deleteAll =>
    rw [sent_of_deleteAll rfl, names, List.map_eq_nil_iff, List.map_eq_nil_iff]
    exact ⟨fun h => ⟨h.symm, id⟩, fun h => h.1.symm⟩

/-- What an alias is, is not asked: a redefinition by the same definition is announced, and otherwise
    changes nothing. -/
theorem sent_same_definition :
    ¬ ∀ (changes : List Change) (c : Change),
      ((run changes).apply c).aliases = (run changes).aliases →
      ((run changes).apply c).index = (run changes).index → (run changes).sent c = [] := by
  intro h
  let a : Alias := { name := ['a'], addresses := [.ofMailbox ['x']] }
  have hsent := h [.create a] (.redefine a) (by decide) (by decide)
  revert hsent
  decide

/-- What a watch sees leads from the names at its beginning to those at its end. -/
theorem replay_seen (before after : List Change) :
    replay (run before).names ((AliasWatch.startOn (run before)).seen (run (before ++ after))) =
      some (run (before ++ after)).names ∧
    (AliasWatch.startOn (run before)).start ≤ (run (before ++ after)).history.length := by
  induction after using List.reverseRecOn with
  | nil =>
    rw [List.append_nil, AliasWatch.seen, AliasWatch.startOn, List.drop_length]
    exact ⟨rfl, Nat.le_refl _⟩
  | append_singleton after c ih =>
    obtain ⟨hreplay, hstart⟩ := ih
    rw [← List.append_assoc, run_concat, seen_apply hstart, replay_append, hreplay, Option.bind_some]
    exact ⟨replay_sent (distinct_run _) c, Nat.le_trans hstart (history_length_le _ c)⟩

end AliasRegistry

/-! ## Observers -/

/-- One who has subscribed. -/
structure Observer where
  /-- How many had subscribed before. -/
  id : Nat
  received : List AliasEvent := []
  /-- Nothing can be sent any more. -/
  gone : Bool := false
  deriving DecidableEq

namespace Observer

/-- Sends an event to every observer, and forgets those who are gone. -/
def notify (os : List Observer) (e : AliasEvent) : List Observer :=
  (os.filter fun o => !o.gone).map fun o => { o with received := o.received ++ [e] }

def leave (os : List Observer) (ids : List Nat) : List Observer :=
  os.map fun o => if o.id ∈ ids then { o with gone := true } else o

/-- Sends events one after the other. Before each of them observers may leave: those in the list that
    has its turn. -/
def deliver (os : List Observer) : List AliasEvent → List (List Nat) → List Observer
  | [], _ => os
  | e :: es, leaving => deliver (notify (leave os (leaving.headD [])) e) es leaving.tail

variable {os : List Observer} {id n : Nat} {es : List AliasEvent}

theorem id_lt_notify (h : ∀ o ∈ os, o.id < n) (e : AliasEvent) : ∀ o ∈ notify os e, o.id < n := by
  intro o ho
  obtain ⟨o', ho', rfl⟩ := List.mem_map.1 ho
  exact h o' (List.mem_filter.1 ho').1

theorem id_lt_leave (h : ∀ o ∈ os, o.id < n) (ids : List Nat) : ∀ o ∈ leave os ids, o.id < n := by
  intro o ho
  obtain ⟨o', ho', rfl⟩ := List.mem_map.1 ho
  split
  · exact h o' ho'
  · exact h o' ho'

theorem id_lt_deliver (h : ∀ o ∈ os, o.id < n) (es : List AliasEvent) (leaving : List (List Nat)) :
    ∀ o ∈ deliver os es leaving, o.id < n := by
  induction es generalizing os leaving with
  | nil => exact h
  | cons e es ih => exact ih (id_lt_notify (id_lt_leave h _) e) _

theorem find?_leave (h : os.find? (·.id == id) = some { id, received := es }) {ids : List Nat}
    (hid : id ∉ ids) : (leave os ids).find? (·.id == id) = some { id, received := es } := by
  have hsame : (Observer.id · == id) ∘
      (fun o : Observer => if o.id ∈ ids then { o with gone := true } else o) =
      (Observer.id · == id) := by
    funext o
    dsimp only [Function.comp]
    split <;> rfl
  rw [leave, List.find?_map, hsame, h]
  exact congrArg some (if_neg hid)

/-- An observer who stays gets the event, whoever has left. -/
theorem find?_notify (h : os.find? (·.id == id) = some { id, received := es }) (e : AliasEvent) :
    (notify os e).find? (·.id == id) = some { id, received := es ++ [e] } := by
  obtain ⟨hid, before, after, rfl, hbefore⟩ := List.find?_eq_some_iff_append.1 h
  have hkept : (before ++ ⟨id, es, false⟩ :: after).find? (fun o => !o.gone && o.id == id) =
      some ⟨id, es, false⟩ := by
    refine List.find?_eq_some_iff_append.2 ⟨by simp, before, after, rfl, fun o ho => ?_⟩
    have hother : o.id ≠ id := by simpa using hbefore o ho
    simp [hother]
  rw [notify, List.find?_map, List.find?_filter]
  simp only [Function.comp_def, Bool.decide_and, Bool.decide_eq_true]
  rw [hkept]
  rfl

theorem find?_deliver (h : os.find? (·.id == id) = some { id, received := es })
    (fs : List AliasEvent) {leaving : List (List Nat)} (hid : ∀ ids ∈ leaving, id ∉ ids) :
    (deliver os fs leaving).find? (·.id == id) = some { id, received := es ++ fs } := by
  induction fs generalizing os es leaving with
  | nil => rwa [List.append_nil]
  | cons f fs ih =>
    have hfirst : id ∉ leaving.headD [] := by
      cases leaving with
      | nil => exact List.not_mem_nil
      | cons ids leaving => exact hid ids List.mem_cons_self
    rw [deliver, ih (find?_notify (find?_leave h hfirst) f) fun ids hids =>
      hid ids (List.mem_of_mem_tail hids), List.append_assoc]
    rfl

end Observer

structure Session where
  registry : AliasRegistry := {}
  observers : List Observer := []
  /-- How many have subscribed so far. -/
  subscribed : Nat := 0

namespace Session

open AliasRegistry (Change)

inductive Step where
  /-- A change; the lists are those of the observers who leave before its first event, before its
      second, and so on. -/
  | change (c : Change) (leaving : List (List Nat))
  | subscribe
  | leave (id : Nat)

/-- The observer leaves in the step. -/
def Step.Drops (id : Nat) : Step → Prop
  | .change _ leaving => ∃ ids ∈ leaving, id ∈ ids
  | .subscribe => False
  | .leave other => other = id

def step (s : Session) : Step → Session
  | .change c leaving =>
    { s with
      registry := s.registry.apply c
      observers := Observer.deliver s.observers (s.registry.sent c) leaving }
  | .subscribe =>
    { s with observers := s.observers ++ [{ id := s.subscribed }], subscribed := s.subscribed + 1 }
  | .leave id => { s with observers := Observer.leave s.observers [id] }

def run (steps : List Step) : Session := steps.foldl step {}

/-- The events that an observer has received. -/
def received? (s : Session) (id : Nat) : Option (List AliasEvent) :=
  (s.observers.find? (·.id == id)).map Observer.received

/-- The changes among the steps. -/
def changes (steps : List Step) : List Change :=
  steps.filterMap fun
    | .change c _ => some c
    | _ => none

theorem run_concat (steps : List Step) (t : Step) : run (steps ++ [t]) = (run steps).step t := by
  rw [run, List.foldl_append]
  rfl

theorem run_registry (steps : List Step) : (run steps).registry = AliasRegistry.run (changes steps) := by
  induction steps using List.reverseRecOn with
  | nil => rfl
  | append_singleton steps t ih =>
    rw [run_concat, changes, List.filterMap_append]
    cases t with
    | change c _ =>
      show (run steps).registry.apply c = AliasRegistry.run (changes steps ++ [c])
      rw [ih, AliasRegistry.run_concat]
    | subscribe | leave id =>
      show (run steps).registry = AliasRegistry.run (changes steps ++ [])
      rw [ih, List.append_nil]

theorem id_lt_subscribed (steps : List Step) :
    ∀ o ∈ (run steps).observers, o.id < (run steps).subscribed := by
  refine List.foldlRecOn (motive := fun s : Session => ∀ o ∈ s.observers, o.id < s.subscribed) steps
    step (fun o ho => absurd ho List.not_mem_nil) fun s h t _ => ?_
  cases t with
  | change c leaving => exact Observer.id_lt_deliver h (s.registry.sent c) leaving
  | subscribe =>
    intro o ho
    rcases List.mem_append.1 ho with ho | ho
    · exact Nat.lt_succ_of_lt (h o ho)
    · rw [List.mem_singleton.1 ho]
      exact Nat.lt_succ_self _
  | leave id => exact Observer.id_lt_leave h [id]

/-- An observer who is there and has received what the watch has seen. -/
structure Tracks (s : Session) (id : Nat) (w : AliasWatch) : Prop where
  found : s.observers.find? (·.id == id) = some { id, received := w.seen s.registry }
  start_le : w.start ≤ s.registry.history.length

variable {s : Session} {id : Nat} {w : AliasWatch}

theorem Tracks.step (h : s.Tracks id w) {t : Step} (ht : ¬ t.Drops id) : (s.step t).Tracks id w := by
  obtain ⟨hfound, hstart⟩ := h
  cases t with
  | change c leaving =>
    have hid : ∀ ids ∈ leaving, id ∉ ids := fun ids hids hmem => ht ⟨ids, hids, hmem⟩
    refine ⟨?_, Nat.le_trans hstart (AliasRegistry.history_length_le _ c)⟩
    show (Observer.deliver s.observers (s.registry.sent c) leaving).find? _ = _
    rw [Observer.find?_deliver hfound _ hid, ← AliasRegistry.seen_apply hstart]
    rfl
  | subscribe =>
    refine ⟨?_, hstart⟩
    show (s.observers ++ [_]).find? _ = _
    rw [List.find?_append, hfound]
    rfl
  | leave other =>
    have hid : id ∉ [other] := fun hmem => ht (List.mem_singleton.1 hmem).symm
    exact ⟨Observer.find?_leave hfound hid, hstart⟩

theorem tracks_subscribe (steps : List Step) :
    ((run steps).step .subscribe).Tracks (run steps).subscribed
      (AliasWatch.startOn (run steps).registry) := by
  refine ⟨?_, Nat.le_refl _⟩
  have hnone : (run steps).observers.find? (·.id == (run steps).subscribed) = none := by
    rw [List.find?_eq_none]
    intro o ho
    rw [beq_iff_eq]
    exact Nat.ne_of_lt (id_lt_subscribed steps o ho)
  show ((run steps).observers ++ [_]).find? _ = _
  rw [List.find?_append, hnone, Option.none_or, List.find?_singleton]
  simp [AliasWatch.seen, AliasWatch.startOn, Session.step]

theorem tracks_run (before after : List Step)
    (hstays : ∀ t ∈ after, ¬ t.Drops (run before).subscribed) :
    (run (before ++ .subscribe :: after)).Tracks (run before).subscribed
      (AliasWatch.startOn (run before).registry) := by
  induction after using List.reverseRecOn with
  | nil =>
    rw [run_concat]
    exact tracks_subscribe before
  | append_singleton after t ih =>
    obtain ⟨hafter, ht⟩ := List.forall_mem_append.1 hstays
    rw [← List.cons_append, ← List.append_assoc, run_concat]
    exact (ih hafter).step (ht t List.mem_cons_self)

/-- One who subscribes at any time and stays, whoever else comes and goes, has received what a watch
    has seen, and this leads from the names at that time to those of now. A change that fails sends
    nothing; any change sends nothing exactly if it leaves the aliases and is no redefinition of one. -/
theorem replay_received (before after : List Step)
    (hstays : ∀ t ∈ after, ¬ t.Drops (run before).subscribed) :
    (∃ events, (run (before ++ .subscribe :: after)).received? (run before).subscribed = some events ∧
      events = (AliasWatch.startOn (run before).registry).seen
        (run (before ++ .subscribe :: after)).registry ∧
      AliasEvent.replay (run before).registry.names events =
        some (run (before ++ .subscribe :: after)).registry.names) ∧
    ∀ (r : AliasRegistry) (c : Change), ((r.perform c).2 ≠ none → r.sent c = []) ∧
      (r.sent c = [] ↔ (r.apply c).aliases = r.aliases ∧ ¬ c.Redefines r) := by
  refine ⟨⟨_, ?_, rfl, ?_⟩, fun r c => ⟨?_, AliasRegistry.sent_eq_nil_iff r c⟩⟩
  · rw [received?, (tracks_run before after hstays).found]
    rfl
  · have hchanges : changes (before ++ .subscribe :: after) = changes before ++ changes after := by
      rw [changes, List.filterMap_append]
      rfl
    rw [run_registry, run_registry, hchanges]
    exact (AliasRegistry.replay_seen (changes before) (changes after)).1
  · intro hfailed
    obtain ⟨e, he⟩ := Option.ne_none_iff_exists'.1 hfailed
    exact AliasRegistry.sent_of_error he

/-- The second of three observers. The first leaves between the two events of the last change, the third
    comes on the way, and a name is spelled in another way. -/
theorem replay_received_others :
    (∀ t ∈ [.change (.define ⟨['b'], [], none, []⟩) [], .subscribe,
      .change (.redefine ⟨['A'], [], none, []⟩) [], .change .deleteAll [[], [0]]],
      ¬ Step.Drops 1 t) ∧
    ∃ events, (run [.subscribe, .change (.create ⟨['a'], [], none, []⟩) [], .subscribe,
        .change (.define ⟨['b'], [], none, []⟩) [], .subscribe,
        .change (.redefine ⟨['A'], [], none, []⟩) [],
        .change .deleteAll [[], [0]]]).received? 1 = some events ∧
      events = [.added ['b'], .changed ['a'], .deleted ['a'], .deleted ['b']] ∧
      AliasEvent.replay [['a']] events = some [] := by
  have hstays : ∀ t ∈ [.change (.define ⟨['b'], [], none, []⟩) [], .subscribe,
      .change (.redefine ⟨['A'], [], none, []⟩) [], .change .deleteAll [[], [0]]],
      ¬ Step.Drops 1 t := by simp [Step.Drops]
  obtain ⟨events, hreceived, hseen, hreplay⟩ :=
    (replay_received [.subscribe, .change (.create ⟨['a'], [], none, []⟩) []] _ hstays).1
  exact ⟨hstays, events, hreceived, hseen, hreplay⟩

end Session
end Recipients
