import Recipients.Alias.Registry

/-
  Expansion: entries that name an alias give way to its entries, and so on. An alias is expanded
  once; where its name comes up again it is dropped, so cycles end. What is left gets the real
  name of a local user and the domain.
-/

namespace Recipients

/-- What expansion knows: the aliases, the real names of local users and the domain of local
    mailboxes. -/
structure Expander where
  aliases : AliasRegistry
  realName : Text → Option Text := fun _ => none
  domain : Option Text := none

namespace Expander

/-- The name that an entry may stand for: a local mailbox without a personal name. -/
def candidate? (a : Address) : Option Text :=
  if a.group || a.personal.isSome then none
  else a.mailbox.filter fun m => !m.contains '@'

def qualified (e : Expander) (a : Address) : Address :=
  match e.domain with
  | some (c :: host) => AddressList.qualifyEntry (c :: host) a
  | _ => a

/-- An entry that stays, with the real name of the user it names. -/
def settled (e : Expander) (a : Address) : Address :=
  match (candidate? a).bind e.realName with
  | some name => e.qualified { a with personal := some name }
  | none => e.qualified a

/-- The alias that an entry names. -/
def alias? (e : Expander) (a : Address) : Option Alias :=
  (candidate? a).bind e.aliases.get?

/-- The aliases that have not been expanded yet; `seen` holds the names of the others in small
    letters. -/
def unseen (e : Expander) (seen : List Text) : List Alias :=
  e.aliases.aliases.filter fun a => !seen.contains a.name.lower

theorem unseen_length_le (e : Expander) {seen seen' : List Text} (h : seen ⊆ seen') :
    (e.unseen seen').length ≤ (e.unseen seen).length := by
  unfold unseen
  generalize e.aliases.aliases = as
  induction as with
  | nil => simp
  | cons a as ih =>
    simp only [List.filter_cons]
    by_cases hs : a.name.lower ∈ seen
    · have := h hs
      simp_all
    · by_cases hs' : a.name.lower ∈ seen'
      · simp only [List.contains_eq_mem, hs', hs, decide_true, decide_false,
          Bool.not_true, Bool.not_false, Bool.false_eq_true, ↓reduceIte, List.length_cons] at ih ⊢
        omega
      · simp only [List.contains_eq_mem, hs', hs, decide_false, Bool.not_false, ↓reduceIte,
          List.length_cons] at ih ⊢
        omega

theorem unseen_length_lt (e : Expander) {seen : List Text} {a : Alias}
    (ha : a ∈ e.aliases.aliases) (hs : a.name.lower ∉ seen) :
    (e.unseen (a.name.lower :: seen)).length < (e.unseen seen).length := by
  have hsub : e.unseen (a.name.lower :: seen) =
      (e.unseen seen).filter fun b => !(b.name.lower == a.name.lower) := by
    unfold unseen
    rw [List.filter_filter]
    apply List.filter_congr
    intro b _
    simp [List.contains_eq_mem, Bool.not_or, Bool.beq_eq_decide_eq]
  rw [hsub]
  apply List.length_filter_lt_length_iff_exists.2
  refine ⟨a, ?_, by simp⟩
  simp [unseen, ha, hs]

theorem mem_of_alias? {e : Expander} {a : Address} {b : Alias} (h : e.alias? a = some b) :
    b ∈ e.aliases.aliases := by
  obtain ⟨n, _, hn⟩ := Option.bind_eq_some_iff.1 h
  exact List.mem_of_find?_eq_some hn

/-- Expands a list after the aliases `seen`; yields the entries and the aliases seen by then. -/
def expandFrom (e : Expander) (seen : List Text) (l : AddressList) :
    AddressList × { seen' : List Text // seen ⊆ seen' } :=
  match l with
  | [] => ([], ⟨seen, List.Subset.refl seen⟩)
  | a :: rest =>
    match _h : e.alias? a with
    | none =>
      let tail := expandFrom e seen rest
      (e.settled a :: tail.1, tail.2)
    | some b =>
      if _hs : b.name.lower ∈ seen then expandFrom e seen rest
      else
        let inner := expandFrom e (b.name.lower :: seen) b.addresses
        let tail := expandFrom e inner.2 rest
        (inner.1 ++ tail.1,
          ⟨tail.2, fun _ hx => tail.2.2 (inner.2.2 (List.mem_cons_of_mem _ hx))⟩)
termination_by ((e.unseen seen).length, l.length)
decreasing_by
  · exact Prod.Lex.right _ (by simp)
  · exact Prod.Lex.right _ (by simp)
  · exact Prod.Lex.left _ _ (unseen_length_lt e (mem_of_alias? _h) _hs)
  · have hsub : seen ⊆ inner.2.1 := fun _ hx => inner.2.2 (List.mem_cons_of_mem _ hx)
    have hle := unseen_length_le e hsub
    rcases Nat.lt_or_eq_of_le hle with hlt | heq
    · exact Prod.Lex.left _ _ hlt
    · rw [heq]
      exact Prod.Lex.right _ (by simp)

/-- Expands every alias in a list and leaves each mailbox once. -/
def expand (e : Expander) (l : AddressList) : AddressList := AddressList.dedupe (e.expandFrom [] l).1

end Expander
end Recipients
