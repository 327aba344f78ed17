/-
  Loops that run turn by turn, a number of turns at most. A loop of which each turn leaves less to do
  than it found comes to its end with as many turns as there is to do, and one more (`exists_run`).
-/

namespace Recipients
namespace Loop

variable {σ α : Type}

/-- A loop with at most `turns` turns. A turn ends the loop with a value or leads to the next turn;
    `none` if the turns are not enough, or if a turn does not end. -/
def run (turn : σ → Option (α ⊕ σ)) : (turns : Nat) → σ → Option α
  | 0, _ => none
  | turns + 1, s => (turn s).bind fun
    | .inl a => some a
    | .inr s => run turn turns s

/-- A loop ends, and its value is right, if every turn keeps the invariant, leaves less to do and owes
    no more than the turns behind it bring. -/
theorem exists_run {turn : σ → Option (α ⊕ σ)} (Inv : σ → Prop) (size : σ → Nat) (Post : σ → α → Prop)
    (hturn : ∀ s, Inv s → (∃ a, turn s = some (.inl a) ∧ Post s a) ∨
      ∃ s', turn s = some (.inr s') ∧ Inv s' ∧ size s' < size s ∧ ∀ a, Post s' a → Post s a)
    {s : σ} (hs : Inv s) {turns : Nat} (hturns : size s < turns) :
    ∃ a, run turn turns s = some a ∧ Post s a := by
  induction turns generalizing s with
  | zero => exact absurd hturns (Nat.not_lt_zero _)
  | succ turns ih =>
    rcases hturn s hs with ⟨a, hend, ha⟩ | ⟨s', hnext, hs', hsize, howed⟩
    · exact ⟨a, by rw [run, hend]; rfl, ha⟩
    · obtain ⟨a, hrun, ha⟩ := ih hs' (by omega)
      exact ⟨a, by rw [run, hnext]; exact hrun, howed a ha⟩

/-- The value of a loop, where it is what each turn passes on. -/
theorem run_eq {turn : σ → Option (α ⊕ σ)} (Inv : σ → Prop) (size : σ → Nat) (value : σ → α)
    (hturn : ∀ s, Inv s → turn s = some (.inl (value s)) ∨
      ∃ s', turn s = some (.inr s') ∧ Inv s' ∧ size s' < size s ∧ value s' = value s)
    {s : σ} (hs : Inv s) {turns : Nat} (hturns : size s < turns) :
    run turn turns s = some (value s) := by
  have hpost : ∀ s, Inv s → (∃ a, turn s = some (.inl a) ∧ a = value s) ∨
      ∃ s', turn s = some (.inr s') ∧ Inv s' ∧ size s' < size s ∧ ∀ a, a = value s' → a = value s := by
    intro s hs
    rcases hturn s hs with hend | ⟨s', hnext, hs', hsize, hvalue⟩
    · exact .inl ⟨_, hend, rfl⟩
    · exact .inr ⟨s', hnext, hs', hsize, fun a ha => ha.trans hvalue⟩
  obtain ⟨a, hrun, rfl⟩ := exists_run Inv size (fun s a => a = value s) hpost hs hturns
  exact hrun

end Loop
end Recipients
