import Recipients.Proofs.Alias.Reachability

/-
  An entry that names an alias expands to what the entries of the alias expand to, if none of these
  refers back to it (`expand_refers`). The walk has seen the alias in the one case and not in the
  other, and a walk that never comes to a name does not depend on whether it has been seen
  (`expandFrom_congr`).
-/

namespace Recipients
namespace Expander

/-- The same names but for one. -/
def SameBut (k : Text) (seen seen' : List Text) : Prop := ∀ n, n ≠ k → (n ∈ seen ↔ n ∈ seen')

variable {e : Expander} {seen : List Text} {k : Text} {a : Address} {b : Alias}
  {l rest : AddressList}

theorem SameBut.cons {seen' : List Text} (h : SameBut k seen seen') (n : Text) : SameBut k (n :: seen) (n :: seen') := by
  intro m hm
  rw [List.mem_cons, List.mem_cons, h m hm]

/-! ## One step of the walk -/

theorem expandFrom_settled (h : e.alias? a = none) :
    e.expandFrom seen (a :: rest) =
      (e.settled a :: (e.expandFrom seen rest).1, (e.expandFrom seen rest).2) := by
  rw [expandFrom]
  split
  · rfl
  · rename_i b hb
    cases h.symm.trans hb

theorem expandFrom_seen (h : e.alias? a = some b) (hb : b.name.lower ∈ seen) :
    e.expandFrom seen (a :: rest) = e.expandFrom seen rest := by
  rw [expandFrom]
  split
  · rename_i hnone
    cases hnone.symm.trans h
  · rename_i b' hb'
    obtain rfl := Option.some.inj (h.symm.trans hb')
    rw [dif_pos hb]

theorem expandFrom_alias (h : e.alias? a = some b) (hb : b.name.lower ∉ seen) (rest : AddressList) :
    let inner := e.expandFrom (b.name.lower :: seen) b.addresses
    (e.expandFrom seen (a :: rest)).1 = inner.1 ++ (e.expandFrom inner.2 rest).1 ∧
      (e.expandFrom seen (a :: rest)).2.1 = (e.expandFrom inner.2 rest).2 := by
  rw [expandFrom]
  split
  · rename_i hnone
    cases hnone.symm.trans h
  · rename_i b' hb'
    obtain rfl := Option.some.inj (h.symm.trans hb')
    rw [dif_neg hb]
    exact ⟨rfl, rfl⟩

/-! ## A name that the walk does not come to -/

/-- No entry that can be reached refers to an alias with the name `k`, in small letters. -/
def Avoids (e : Expander) (k : Text) (l : AddressList) : Prop :=
  ∀ c, e.Reachable l c → ∀ b, e.Refers c b → b.name.lower ≠ k

theorem Avoids.mono {l' : AddressList} (h : e.Avoids k l) (hl : ∀ c ∈ l', e.Reachable l c) :
    e.Avoids k l' :=
  fun c hc => h c (hc.trans hl)

theorem Avoids.tail (h : e.Avoids k (a :: rest)) : e.Avoids k rest :=
  h.mono fun _ hc => .entry (List.mem_cons_of_mem a hc)

theorem Avoids.members (h : e.Avoids k (a :: rest)) (href : e.Refers a b) : e.Avoids k b.addresses :=
  h.mono fun _ hc => .member (.entry List.mem_cons_self) href hc

theorem expandFrom_congr (seen' : List Text) (hseen : SameBut k seen seen') (hl : e.Avoids k l) :
    (e.expandFrom seen' l).1 = (e.expandFrom seen l).1 ∧
      SameBut k (e.expandFrom seen l).2 (e.expandFrom seen' l).2 := by
  fun_induction expandFrom e seen l generalizing seen' with
  | case1 seen =>
    rw [expandFrom]
    exact ⟨rfl, hseen⟩
  | case2 seen a rest ha tail ih =>
    obtain ⟨hout, hafter⟩ := ih _ hseen hl.tail
    rw [expandFrom_settled ha]
    exact ⟨congrArg (e.settled a :: ·) hout, hafter⟩
  | case3 seen a rest b hb hs ih =>
    have hne := hl a (.entry List.mem_cons_self) b (alias?_eq_some_iff.1 hb)
    rw [expandFrom_seen hb ((hseen _ hne).1 hs)]
    exact ih _ hseen hl.tail
  | case4 seen a rest b hb hs inner tail ihInner ihTail =>
    have href := alias?_eq_some_iff.1 hb
    have hne := hl a (.entry List.mem_cons_self) b href
    obtain ⟨hinner, hbetween⟩ := ihInner _ (hseen.cons _) (hl.members href)
    obtain ⟨htail, hafter⟩ := ihTail _ hbetween hl.tail
    obtain ⟨hout, hnames⟩ := expandFrom_alias hb (mt (hseen _ hne).2 hs) rest
    rw [hout, hnames, hinner, htail]
    exact ⟨rfl, hafter⟩

/-! ## An entry that names an alias -/

/-- What no reachable entry refers to is not come to under its name. -/
theorem avoids_of_not_refers (href : e.Refers a b)
    (hback : ∀ c, e.Reachable l c → ¬ e.Refers c b) : e.Avoids b.name.lower l := by
  intro c hc b' hb' hname
  have hsame : b' = b := by
    have hfound := get?_name_of_alias? (alias?_eq_some_iff.2 hb')
    rw [get?_congr e.aliases hname, get?_name_of_alias? (alias?_eq_some_iff.2 href)] at hfound
    exact (Option.some.inj hfound).symm
  exact hback c hc (hsame ▸ hb')

/-- An entry expands to what the alias that it names expands to, unless that refers back to it. -/
theorem expand_refers (href : e.Refers a b) (hback : ∀ c, e.Reachable b.addresses c → ¬ e.Refers c b) :
    e.expand [a] = e.expand b.addresses := by
  have hsame : SameBut b.name.lower [] [b.name.lower] := by
    intro n hn
    simp [hn]
  obtain ⟨hout, -⟩ := expandFrom_congr _ hsame (avoids_of_not_refers href hback)
  obtain ⟨hwalk, -⟩ := expandFrom_alias (alias?_eq_some_iff.2 href) List.not_mem_nil []
  have hnone (seen : List Text) : (e.expandFrom seen []).1 = [] := by rw [expandFrom]
  rw [hnone, List.append_nil, hout] at hwalk
  rw [expand, expand, hwalk]

end Expander
end Recipients
