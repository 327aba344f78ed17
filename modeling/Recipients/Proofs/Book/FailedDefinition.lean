import Recipients.Proofs.Book.Groups

/-
  Definitions of aliases that fail. The command names its groups before it knows whether it will
  succeed, and a failure drops those in which nothing is by then. Naming groups and dropping them again
  leaves every group as it was, except that those among them go that were empty before
  (`get?_removeEmpty_addAll`). Nothing else has been done when a definition fails, and it ends its line,
  so this is all that the line does (`execute_failed_definition`).
-/

namespace Recipients

/-! ## Groups that are named and dropped -/

namespace GroupNames

open GroupRegistry

theorem mem_addAll {ns : GroupNames} {r : GroupRegistry} {names : List Text} {n : Text} :
    n ∈ (ns.addAll r names).1 ↔ n ∈ ns ∨ n ∈ names := by
  induction names generalizing ns r with
  | nil => simp [addAll]
  | cons name names ih =>
    have hadd : n ∈ (ns.add r name).1 ↔ n ∈ ns ∨ n = name := by
      rw [add]
      split
      · rename_i hmem
        refine ⟨.inl, fun h => h.elim id fun heq => ?_⟩
        rw [heq]
        exact List.elem_iff.1 hmem
      · rw [List.mem_append, List.mem_singleton]
    show n ∈ ((ns.add r name).1.addAll _ names).1 ↔ _
    rw [ih, hadd, List.mem_cons, or_assoc]

theorem get?_removeEmpty (ns : GroupNames) (r : GroupRegistry) (n : Text) :
    (ns.removeEmpty r).get? n =
      if n ∈ ns then (r.get? n).filter fun g => !g.isEmpty else r.get? n := by
  induction ns generalizing r with
  | nil => rfl
  | cons name ns ih =>
    show (removeEmpty ns (r.removeIfEmpty name)).get? n = _
    rw [ih, get?_removeIfEmpty]
    by_cases hn : n = name
    · simp [hn, Option.filter_filter]
    · simp [hn]

/-- A command that names groups and gives up drops what it has made, and what was empty before. -/
theorem get?_removeEmpty_addAll (r : GroupRegistry) (names : List Text) (n : Text) :
    ((addAll [] r names).1.removeEmpty (addAll [] r names).2).get? n =
      if n ∈ names then (r.get? n).filter fun g => !g.isEmpty else r.get? n := by
  have hmem : n ∈ (addAll [] r names).1 ↔ n ∈ names := by simp [mem_addAll]
  rw [get?_removeEmpty, addAll_snd, get?_foldl_found]
  by_cases hn : n ∈ names
  · rw [if_pos (hmem.2 hn), if_pos hn, if_pos hn]
    cases hg : r.get? n with
    | none =>
      rw [get_of_get?_none hg]
      rfl
    | some g => rw [get_of_get? hg]
  · rw [if_neg (mt hmem.1 hn), if_neg hn, if_neg hn]

end GroupNames

/-! ## Definitions -/

namespace Command

/-- The groups that a command names in front of its first word. -/
def firstGroups (c : Command) : List Text :=
  match grouped [] c.words with
  | (w :: _, _) => w.groups
  | ([], some loose) => loose.groups
  | ([], none) => []

/-- A definition is the last command of its line. -/
theorem ofRest_of_definition {rest : Text} {c : Command} {cs : List Command}
    (h : ofRest rest = c :: cs) (hc : c.first = aliasWord) : cs = [] := by
  fun_induction ofRest rest with
  | case1 => cases h
  | case2 rest _ more _ ih => exact ih h
  | case3 => exact (List.cons.inj h).2.symm
  | case4 rest _ _ first _ command hfirst =>
    obtain ⟨rfl, -⟩ := List.cons.inj h
    exact absurd hc hfirst
  | case5 => exact (List.cons.inj h).2.symm

end Command

namespace Book

open Command (firstGroups)

variable {b b' : Book} {c : Command} {e : CommandError}

/-- What a definition that fails has done by then is to name its groups and to drop them again. -/
theorem perform_failed_definition (hverb : Verb.ofName? c.first = some .define)
    (h : b.perform c = (b', .failed e)) :
    b' = ((b.nameGroups [] (firstGroups c)).2.giveUp (b.nameGroups [] (firstGroups c)).1 e).1 := by
  simp only [perform, hverb] at h
  split at h
  · rename_i hwords
    obtain ⟨rfl, -⟩ := Prod.mk.inj h
    rw [firstGroups, List.isEmpty_iff.1 hwords]
    rfl
  · rw [performVerb, performDefine] at h
    split at h
    · rename_i w ws loose hgrouped
      rw [firstGroups, hgrouped]
      simp only [defineAlias] at h
      split at h
      · exact (Prod.mk.inj h).1.symm
      · cases h
    · rename_i loose hgrouped
      rw [firstGroups, hgrouped]
      exact (Prod.mk.inj h).1.symm
    · rename_i hgrouped
      rw [firstGroups, hgrouped]
      exact (Prod.mk.inj h).1.symm

/-- A line that begins with a definition fails if the definition does, and ends with it. -/
theorem perform_of_execute {line : Text} (hline : (Command.ofLine line).head? = some c)
    (hfirst : c.first = Command.aliasWord) (h : (b.execute line).2 = some e) :
    b.perform c = ((b.execute line).1, .failed e) := by
  obtain ⟨cs, hcs⟩ := List.head?_eq_some_iff.1 hline
  obtain rfl := Command.ofRest_of_definition hcs hfirst
  rw [execute, hcs, run] at h ⊢
  split at h
  · cases h
  · cases h
  · rename_i b' e' hfailed
    rw [hfailed]
    obtain rfl := Option.some.inj h
    rfl

/-- A line that begins with the definition of an alias, and fails, leaves the aliases with their index
    and their history, the alternates and the mailing lists. A group stays as it is, unless the command
    names it and nothing is in it, and none is new. -/
theorem execute_failed_definition {line : Text} (hline : (Command.ofLine line).head? = some c)
    (hfirst : c.first = Command.aliasWord) (hfailed : (b.execute line).2 = some e) :
    (b.execute line).1 = { b with groups := (b.execute line).1.groups } ∧
    (∀ a, (b.execute line).1.aliasFor a = b.aliasFor a) ∧
    (AliasWatch.startOn b.aliases).seen (b.execute line).1.aliases = [] ∧
    (∀ n g, b.groups.get? n = some g → g.isEmpty = false ∨ n ∉ firstGroups c →
      (b.execute line).1.groups.get? n = some g) ∧
    ∀ n, b.groups.get? n = none → (b.execute line).1.groups.get? n = none := by
  have hverb : Verb.ofName? c.first = some .define := by
    rw [hfirst]
    decide
  have hbook := perform_failed_definition hverb (perform_of_execute hline hfirst hfailed)
  generalize (b.execute line).1 = after at hbook
  subst hbook
  have hgroups (n : Text) : GroupRegistry.get? (GroupNames.removeEmpty _ _) n = _ :=
    GroupNames.get?_removeEmpty_addAll b.groups (firstGroups c) n
  refine ⟨rfl, fun _ => rfl, List.drop_length, fun n g hg hkeep => ?_, fun n hn => ?_⟩
  · refine (hgroups n).trans ?_
    rw [hg]
    split
    · rename_i hnamed
      rw [Option.filter_some, hkeep.resolve_right (not_not.2 hnamed)]
      rfl
    · rfl
  · refine (hgroups n).trans ?_
    rw [hn]
    split <;> rfl

/-- Of the groups that the failing line names, one has a member, one is new and one is empty. -/
theorem execute_failed_definition_grouped :
    let b := plain.executeAll ["alias -group g work a@x.org # note".toList, "group -group k -rx".toList]
    let line := "alias -group g -group h -group k other <".toList
    (Command.ofLine line).head?.map Command.first = some Command.aliasWord ∧
    (b.execute line).2 = some (.badAliasAddress ['<'] "other".toList) ∧
    b.groups.map Group.name = [['g'], ['k']] ∧
    (b.execute line).1.groups.map Group.name = [['g']] ∧
    (b.execute line).1 = { b with groups := (b.execute line).1.groups } ∧
    (AliasWatch.startOn b.aliases).seen (b.execute line).1.aliases = [] := by
  intro b line
  have hline : (Command.ofLine line).head?.map Command.first = some Command.aliasWord := by
    decide +kernel
  have hfailed : (b.execute line).2 = some (.badAliasAddress ['<'] "other".toList) := by
    decide +kernel
  obtain ⟨c, hc, hfirst⟩ := Option.map_eq_some_iff.1 hline
  obtain ⟨hsame, -, hevents, -⟩ := execute_failed_definition hc hfirst hfailed
  exact ⟨hline, hfailed, by decide +kernel, by decide +kernel, hsame, hevents⟩

end Book
end Recipients
