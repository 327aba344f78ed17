import Recipients.Proofs.Alias.Reachability

/-
  How deep an expansion goes. `walk` is the walk of `expandFrom` call by call: a call goes through
  one list and makes another call for the entries of an alias. What stops it is only the record of
  the names seen and a limit on the calls that are open at once. With a call for every alias and one
  more it comes to its end, with what `expandFrom` yields, and no alias is copied in twice
  (`expand_walk`).

  A call records an alias under the name that the entry spells, `expandFrom` under the one that the
  registry spells; in small letters these are one name.
-/

namespace Recipients
namespace Expander

/-- What a call leaves: the entries, the names seen by then in small letters, and the aliases whose
    entries were copied in, in this order. -/
structure Walk where
  entries : AddressList
  seen : List Text
  copied : List Alias := []

namespace Walk

/-- A walk with an entry in front that stays. -/
def keep (a : Address) (w : Walk) : Walk := { w with entries := a :: w.entries }

/-- The walk `inner` through the entries of `b`, and the walk `rest` through what follows. -/
def copy (b : Alias) (inner rest : Walk) : Walk where
  entries := inner.entries ++ rest.entries
  seen := rest.seen
  copied := b :: (inner.copied ++ rest.copied)

end Walk

/-- A call for a list after the names `seen`; `inner` is what a call inside it does. -/
def call (e : Expander) (inner : List Text → AddressList → Option Walk) (seen : List Text) :
    AddressList → Option Walk
  | [] => some { entries := [], seen }
  | a :: rest =>
    match candidate? a with
    | none => (call e inner seen rest).map (.keep (e.settled a))
    | some name =>
      match e.aliases.get? name with
      | none => (call e inner seen rest).map (.keep (e.settled a))
      | some b =>
        if name.lower ∈ seen then call e inner seen rest
        else (inner (name.lower :: seen) b.addresses).bind fun w =>
          (call e inner w.seen rest).map (.copy b w)

/-- The walk with at most `depth` calls open at once; `none` if that is not enough. -/
def walk (e : Expander) : (depth : Nat) → List Text → AddressList → Option Walk
  | 0 => fun _ _ => none
  | depth + 1 => e.call (e.walk depth)

/-! ## A call, entry by entry -/

section Call

variable {e : Expander} {inner : List Text → AddressList → Option Walk} {seen : List Text}
  {a : Address} {b : Alias} {rest : AddressList}

theorem call_settled (h : e.alias? a = none) :
    e.call inner seen (a :: rest) = (e.call inner seen rest).map (.keep (e.settled a)) := by
  rw [call]
  cases hname : candidate? a with
  | none => rfl
  | some name =>
    rw [alias?, hname, Option.bind_some] at h
    simp only [h]

theorem call_alias (h : e.alias? a = some b) :
    e.call inner seen (a :: rest) =
      if b.name.lower ∈ seen then e.call inner seen rest
      else (inner (b.name.lower :: seen) b.addresses).bind fun w =>
        (e.call inner w.seen rest).map (.copy b w) := by
  obtain ⟨name, hname, hget⟩ := Option.bind_eq_some_iff.1 h
  rw [call, name_of_get? hget]
  simp only [hname, hget]

end Call

/-! ## The end of a walk -/

/-- A walk with more calls than there are aliases left to see comes to the end of `expandFrom`. -/
theorem exists_walk (e : Expander) (seen : List Text) (l : AddressList) (depth : Nat)
    (hdepth : (e.unseen seen).length < depth) :
    ∃ w, e.walk depth seen l = some w ∧ w.entries = (e.expandFrom seen l).1 ∧
      w.seen = (e.expandFrom seen l).2 := by
  obtain ⟨d, rfl⟩ := Nat.exists_eq_succ_of_ne_zero (Nat.ne_of_gt (Nat.zero_lt_of_lt hdepth))
  fun_induction expandFrom e seen l generalizing d with
  | case1 seen => exact ⟨_, rfl, rfl, rfl⟩
  | case2 seen a rest ha tail ih =>
    obtain ⟨w, hw, hentries, hseen⟩ := ih d hdepth
    refine ⟨w.keep (e.settled a), ?_, congrArg (e.settled a :: ·) hentries, hseen⟩
    show e.call _ seen (a :: rest) = _
    rw [call_settled ha]
    exact congrArg (Option.map _) hw
  | case3 seen a rest b hb hs ih =>
    obtain ⟨w, hw, hentries, hseen⟩ := ih d hdepth
    refine ⟨w, ?_, hentries, hseen⟩
    show e.call _ seen (a :: rest) = _
    rw [call_alias hb, if_pos hs]
    exact hw
  | case4 seen a rest b hb hs inner tail ihInner ihTail =>
    -- One alias fewer is left inside, so the call for its members gets by with one call fewer.
    have hlt := unseen_length_lt e (mem_of_alias? hb) hs
    obtain ⟨d', rfl⟩ : ∃ d', d = d' + 1 := Nat.exists_eq_succ_of_ne_zero (by omega)
    obtain ⟨w, hw, hentries, hseen⟩ := ihInner d' (by omega)
    have hsub : seen ⊆ inner.2.1 := fun _ hx => inner.2.2 (List.mem_cons_of_mem _ hx)
    have hle := unseen_length_le e hsub
    obtain ⟨w', hw', hentries', hseen'⟩ := ihTail (d' + 1) (by omega)
    refine ⟨.copy b w w', ?_, ?_, hseen'⟩
    · show e.call _ seen (a :: rest) = _
      rw [call_alias hb, if_neg hs]
      show (e.walk (d' + 1) (b.name.lower :: seen) b.addresses).bind _ = _
      rw [hw, Option.bind_some, hseen]
      exact congrArg (Option.map _) hw'
    · show w.entries ++ w'.entries = inner.1 ++ tail.1
      rw [hentries, hentries']

/-- What an expansion comes to, by a walk that can be run. -/
theorem map_walk (l : AddressList) {e : Expander} {depth : Nat} (hdepth : (e.unseen []).length < depth) :
    (e.walk depth [] l).map (fun w => AddressList.dedupe w.entries) = some (e.expand l) := by
  obtain ⟨w, hw, hentries, -⟩ := exists_walk e [] l depth hdepth
  rw [hw, Option.map_some, hentries]
  rfl

/-! ## What a walk copies in -/

/-- The names of registered aliases, none of which was seen before or is copied in twice, come on
    top of those seen before. -/
structure Copies (e : Expander) (seen : List Text) (w : Walk) : Prop where
  registered : ∀ b ∈ w.copied, b ∈ e.aliases.aliases
  seen_eq : w.seen = (w.copied.map fun b => b.name.lower).reverse ++ seen
  nodup : seen.Nodup → w.seen.Nodup

theorem Copies.copy {e : Expander} {seen : List Text} {a : Address} {b : Alias} {w w' : Walk}
    (hb : e.alias? a = some b) (hs : b.name.lower ∉ seen) (h : e.Copies (b.name.lower :: seen) w)
    (h' : e.Copies w.seen w') : e.Copies seen (.copy b w w') where
  registered := by
    intro c hc
    rcases List.mem_cons.1 hc with rfl | hc
    · exact mem_of_alias? hb
    · exact (List.mem_append.1 hc).elim (h.registered c) (h'.registered c)
  seen_eq := by
    show w'.seen = _
    rw [h'.seen_eq, h.seen_eq]
    simp [Walk.copy]
  nodup hseen := h'.nodup (h.nodup (List.nodup_cons.2 ⟨hs, hseen⟩))

theorem call_copies {e : Expander} {inner : List Text → AddressList → Option Walk}
    (hinner : ∀ seen l w, inner seen l = some w → e.Copies seen w) {l : AddressList}
    {seen : List Text} {w : Walk} (h : e.call inner seen l = some w) : e.Copies seen w := by
  induction l generalizing seen w with
  | nil =>
    cases h
    exact ⟨fun _ hb => (nomatch hb), rfl, id⟩
  | cons a rest ih =>
    cases ha : e.alias? a with
    | none =>
      rw [call_settled ha] at h
      obtain ⟨v, hv, rfl⟩ := Option.map_eq_some_iff.1 h
      exact ⟨(ih hv).registered, (ih hv).seen_eq, (ih hv).nodup⟩
    | some b =>
      rw [call_alias ha] at h
      split at h
      · exact ih h
      · rename_i hs
        obtain ⟨v, hv, h⟩ := Option.bind_eq_some_iff.1 h
        obtain ⟨v', hv', rfl⟩ := Option.map_eq_some_iff.1 h
        exact .copy ha hs (hinner _ _ _ hv) (ih hv')

theorem walk_copies {e : Expander} {depth : Nat} {seen : List Text} {l : AddressList} {w : Walk}
    (h : e.walk depth seen l = some w) : e.Copies seen w := by
  induction depth generalizing seen l w with
  | zero => cases h
  | succ depth ih => exact call_copies (fun _ _ _ hinner => ih hinner) h

/-- An expansion comes to its end with no more calls open at once than there are aliases and one
    more, and copies the entries of registered aliases in, no two of which have the same name. -/
theorem expand_walk (e : Expander) (l : AddressList) :
    ∃ w, e.walk (e.aliases.aliases.length + 1) [] l = some w ∧
      e.expand l = AddressList.dedupe w.entries ∧
      (∀ b ∈ w.copied, b ∈ e.aliases.aliases) ∧ (w.copied.map fun b => b.name.lower).Nodup := by
  have hdepth : (e.unseen []).length < e.aliases.aliases.length + 1 :=
    Nat.lt_succ_of_le (List.length_filter_le _ _)
  obtain ⟨w, hw, hentries, _⟩ := exists_walk e [] l _ hdepth
  have hcopies := walk_copies hw
  have hnodup := hcopies.nodup List.nodup_nil
  rw [hcopies.seen_eq, List.append_nil, List.nodup_reverse] at hnodup
  exact ⟨w, hw, by rw [hentries]; rfl, hcopies.registered, hnodup⟩

/-- Two aliases that name each other take as many calls as that. -/
example :
    let e : Expander :=
      { aliases := { aliases := [⟨['x'], [.ofMailbox ['y']], none, []⟩,
          ⟨['y'], [.ofMailbox ['X']], none, []⟩] } }
    (e.walk 2 [] [.ofMailbox ['x']]).isNone ∧ (e.walk 3 [] [.ofMailbox ['x']]).isSome := by
  decide

end Expander
end Recipients
