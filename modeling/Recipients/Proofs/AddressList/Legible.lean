import Recipients.Proofs.AddressList.Parsed
import Recipients.Proofs.AddressList.RoundTrip

/-
  Entries that reading yields and that are read back from their written form (`enters_legible`), but
  for the white space in their names.

  A mailbox with a name stands between angle brackets, where only the empty mailbox and a route get in
  the way. A bare mailbox is collected like words, which takes the quotes off a quoted string that has
  no at sign after it and drops every backslash outside quotes.
-/

namespace Recipients
namespace Address

/-! ## Legible entries -/

/-- Mailboxes that are read as they stand when they are written bare. -/
inductive LegibleBare : Text → Prop
  | wellFormed {m : Text} (hm : WellFormedMailbox m) : LegibleBare m
  | prefixed {t d : Text} (ht : IsLocalPart t) (s : Text) (hd : IsDomainPart d) :
      LegibleBare (t ++ (quoted s ++ '@' :: d))

/-- Mailboxes that are read as they stand between angle brackets. -/
def LegibleAngle (m : Text) : Prop := m = ['@'] ∨ (m ≠ [] ∧ m.head? ≠ some '@')

/-- A mailbox with a name is written between angle brackets, one without a name is written bare. -/
def Legible (a : Address) : Prop :=
  ∀ m ∈ a.mailbox, if a.personal.isSome then LegibleAngle m else LegibleBare m

/-! ## Entries up to spacing -/

/-- Two entries that are the same but for white space in their names. -/
structure SameButSpacing (a b : Address) : Prop where
  mailbox : a.mailbox = b.mailbox
  group : a.group = b.group
  personal : nameWords (a.personal.getD []) = nameWords (b.personal.getD [])

theorem sameButSpacing_reread (a : Address) : SameButSpacing a a.reread := by
  refine ⟨rfl, rfl, ?_⟩
  cases hp : a.personal with
  | none => rw [reread, hp]; rfl
  | some n =>
    rw [reread, hp, Option.bind_some, Option.getD_some, ← nameWords_respaced n]
    split
    · rename_i hempty
      rw [List.isEmpty_iff.1 hempty]
      rfl
    · rfl

end Address

namespace AddressList
namespace Draft

open Address (isOrdinary Stops stops_cons)

variable {a : Address} {d : Draft} {rest : Text}

/-! ## A quoted string after words -/

/-- The reader puts a space before the quoted string, and passes over it when it reads the mailbox. -/
theorem bareEntry?_prefixed {t d : Text} (ht : Address.IsLocalPart t) (s : Text)
    (hd : Address.IsDomainPart d) :
    Address.bareEntry? (t ++ ' ' :: (Address.quoted s ++ '@' :: d)) [] =
      some (.ofMailbox (t ++ (Address.quoted s ++ '@' :: d))) := by
  have hlocal : Address.readPart Address.localAllowed [] [] (t ++ ' ' :: (Address.quoted s ++ '@' :: d)) =
      .ok ⟨t ++ Address.quoted s, [], '@' :: d⟩ := by
    rw [Address.readPart_partOf (.of_forall ht.taken), List.nil_append, Address.readPart_skipGap]
    show Address.readPart _ t [] (Address.quoted s ++ '@' :: d) = _
    rw [Address.readPart_quoted (by decide), Address.readPart_stop (by decide) (by decide)]
  have hdomain := Address.readPart_partOf (.of_forall hd.taken) (t ++ Address.quoted s ++ ['@']) [] []
  rw [List.append_nil, Address.readPart_nil] at hdomain
  unfold Address.bareEntry? Address.readBare Address.readMailbox
  simp only [hlocal, hdomain]
  simp [Except.toOption, Address.entryOf, Address.ofMailbox]

/-- A quoted string keeps its quotes before an at sign; words before it get a space after them. -/
theorem scan_prefixed {p q : Text} (hp : ∀ c ∈ p, isOrdinary c = true ∨ c = '.') (s : Text)
    (hq : Address.IsDomainPart q) (hrest : Stops rest) (hd : d.phrase = []) :
    d.scan (p ++ (Address.quoted s ++ ('@' :: q ++ rest))) =
      { d with phrase := joined { d with phrase := p } true ++
        (Address.quoted s ++ '@' :: q) }.scan rest := by
  have hquote : Stops (Address.quoted s ++ ('@' :: q ++ rest)) := stops_cons.2 (by decide)
  rw [scan_text (isWordStart_of_dots hp) hquote, hd, List.nil_append, scan_joined_quoted,
    List.cons_append, if_pos (by simp), ← List.cons_append,
    scan_text (isWordStart_of_isDomainPart hq) hrest, List.append_assoc]

theorem enters_prefixed {t d : Text} (ht : Address.IsLocalPart t) (s : Text)
    (hd : Address.IsDomainPart d) (hrest : Stops rest) :
    EntersAs (.ofMailbox (t ++ (Address.quoted s ++ '@' :: d)))
      (.ofMailbox (t ++ (Address.quoted s ++ '@' :: d))) rest := by
  intro entries count
  have hwrite : Address.write (.ofMailbox (t ++ (Address.quoted s ++ '@' :: d))) =
      t ++ (Address.quoted s ++ '@' :: d) := by
    obtain ⟨hne, hall⟩ := ht
    obtain ⟨c, r, rfl⟩ := List.exists_cons_of_ne_nil hne
    have hat : c ≠ '@' := by
      rintro rfl
      exact absurd (hall '@' List.mem_cons_self) (by decide)
    rw [write_recipient rfl rfl]
    simp [Address.writeMailbox, hat]
  have hscan : Draft.scan { entries, count } (t ++ (Address.quoted s ++ '@' :: d) ++ rest) =
      Draft.scan { entries, phrase := t ++ ' ' :: (Address.quoted s ++ '@' :: d), count } rest := by
    rw [List.append_assoc, List.append_assoc, scan_prefixed ht.2 s hd hrest rfl]
    simp [joined, ht.1]
  rw [hwrite, hscan]
  refine ⟨_, rfl, settled_bare (by simp) (bareEntry?_prefixed ht s hd) entries count, fun h => ?_⟩
  cases h

/-! ## Entries -/

theorem enters_legible (ha : a.Parsed) (hl : a.Legible) (rest : Text)
    (hrest : a.isGroupMarker = true ∨ Stops rest) : EntersAs a a.reread rest := by
  cases ha with
  | terminator => exact enters_terminator rfl rfl rfl rest
  | marker n => exact enters_marker rfl rfl (by simp [Address.groupMarker]) rest
  | @recipient m hm p hp =>
    have hstop : Stops rest := hrest.resolve_left (by simp [Address.isGroupMarker])
    have hmail := hl m rfl
    cases p with
    | some n =>
      refine enters_named rfl rfl rfl (fun h => hp (congrArg some h)) fun hnull name => ?_
      obtain ⟨hne, hat⟩ := Or.resolve_left hmail hnull
      exact Address.readAngle_built hm hne hat name rest
    | none =>
      cases hmail with
      | wellFormed hmail => exact enters_bare rfl rfl rfl hmail hstop
      | prefixed ht s hd => exact enters_prefixed ht s hd hstop

end Draft
end AddressList
end Recipients
