import Mathlib.Data.List.Induction
import Recipients.Proofs.Address.Made

/-
  The form that an entry is recorded in, along any changes of its mailbox. A conversion passes over an
  entry that is recorded in the form that is asked for. Where that is the wire form, nothing is lost
  by it: the domain is ASCII. Where it is the readable form, the mailbox may never have been decoded,
  since a conversion that was not to decode records the form as well (`Undecoded`); this is the only
  way in which a conversion yields something else than it would without the record
  (`conversions_run`).
-/

namespace Recipients
namespace Address

/-- What changes the mailbox of an entry. A conversion says what is wanted then. -/
inductive Change where
  | setMailbox (mailbox : Option Text)
  | qualify (host : Text)
  | toWire (encode decode : Bool)
  | toReadable (encode decode : Bool)

/-- The entry after a change; a conversion that fails leaves it as it was. -/
def Change.apply (c : Domain.Converter) (a : Address) : Change → Address
  | .setMailbox mailbox => a.setMailbox mailbox
  | .qualify host => (AddressList.qualify host [a]).headD a
  | .toWire encode decode => (a.toWire ⟨encode, decode, c⟩).toOption.getD a
  | .toReadable encode decode => (a.toReadable ⟨encode, decode, c⟩).1

def run (c : Domain.Converter) (a : Address) (changes : List Change) : Address :=
  changes.foldl (Change.apply c) a

/-- The entry is recorded as readable by a conversion that was not to decode. It was the last change,
    or the last change has left the entry as it was, and so it was before that. -/
inductive Undecoded (c : Domain.Converter) (a : Address) : List Change → Prop
  | read {changes : List Change} (encode : Bool) (hdomain : ∃ m ∈ (run c a changes).mailbox, '@' ∈ m)
      (hform : (run c a changes).form ≠ some .readable) :
      Undecoded c a (changes ++ [.toReadable encode false])
  | kept {changes : List Change} {change : Change} (h : Undecoded c a changes)
      (hsame : change.apply c (run c a changes) = run c a changes) :
      Undecoded c a (changes ++ [change])

variable {c : Domain.Converter} {a : Address}

theorem run_concat (c : Domain.Converter) (a : Address) (changes : List Change) (change : Change) :
    run c a (changes ++ [change]) = change.apply c (run c a changes) := by
  rw [run, List.foldl_append]
  rfl

theorem qualifyEntry_eq_or (host : Text) (a : Address) :
    AddressList.qualifyEntry host a = a ∨ (AddressList.qualifyEntry host a).form = none := by
  unfold AddressList.qualifyEntry
  split
  · split
    · exact .inl rfl
    · exact .inr rfl
  · exact .inl rfl

/-- A change leaves the entry as it was, or without a record, or it is a conversion that has taken
    place. -/
theorem apply_cases (c : Domain.Converter) (a : Address) (change : Change) :
    change.apply c a = a ∨ (change.apply c a).form = none ∨
      (∃ encode decode m m', Mailbox.toWire ⟨encode, decode, c⟩ m = .ok m' ∧
        change.apply c a = { a with mailbox := some m', form := some .wire }) ∨
      ∃ encode decode m, change = .toReadable encode decode ∧ a.mailbox = some m ∧ '@' ∈ m ∧
        a.form ≠ some .readable ∧ change.apply c a =
          { a with
            mailbox := some (Mailbox.toReadable ⟨encode, decode, c⟩ m), form := some .readable } := by
  cases change with
  | setMailbox mailbox => exact .inr (.inl rfl)
  | qualify host =>
    simp only [Change.apply, AddressList.qualify]
    split
    · exact .inl rfl
    · exact (qualifyEntry_eq_or host a).imp_right .inl
  | toWire encode decode =>
    simp only [Change.apply]
    cases hw : a.toWire ⟨encode, decode, c⟩ with
    | error e => exact .inl rfl
    | ok w =>
      obtain ⟨rfl, -⟩ | ⟨m, m', -, hm', rfl⟩ := toWire_cases hw
      · exact .inl rfl
      · exact .inr (.inr (.inl ⟨encode, decode, m, m', hm', rfl⟩))
  | toReadable encode decode =>
    obtain ⟨hsame, -⟩ | ⟨m, hm, hat, hform, hnew⟩ := a.toReadable_cases ⟨encode, decode, c⟩
    · exact .inl (congrArg Prod.fst hsame)
    · exact .inr (.inr (.inr ⟨encode, decode, m, rfl, hm, hat, hform, congrArg Prod.fst hnew⟩))

theorem Undecoded.form {changes : List Change} (h : Undecoded c a changes) :
    (run c a changes).form = some .readable := by
  induction h with
  | @read changes encode hdomain hform =>
    obtain ⟨m, hm, hat⟩ := hdomain
    rw [run_concat, Change.apply]
    obtain ⟨-, hread | hlocal⟩ | ⟨m', -, -, -, hnew⟩ :=
      (run c a changes).toReadable_cases ⟨encode, false, c⟩
    · exact absurd hread hform
    · exact absurd hat (hlocal m hm)
    · rw [hnew]
  | kept _ hsame ih => rw [run_concat, hsame, ih]

/-! ## Conversions with a record and without -/

/-- An entry is brought into the wire form of its mailbox. -/
theorem map_mailbox_toWire (h : a.form = some .wire → ∀ m ∈ a.mailbox, Mailbox.HasAsciiDomain m)
    (policy : DomainPolicy) :
    (a.toWire policy).map Address.mailbox = a.mailbox.mapM (Mailbox.toWire policy) := by
  by_cases hdomain : ∃ m ∈ a.mailbox, '@' ∈ m
  · obtain ⟨m, hm, hat⟩ := hdomain
    rw [toWire_eq_map h policy hm hat, hm]
    show _ = (Mailbox.toWire policy m).map some
    cases Mailbox.toWire policy m <;> rfl
  · have hlocal : ∀ m ∈ a.mailbox, '@' ∉ m := fun m hm hat => hdomain ⟨m, hm, hat⟩
    rw [toWire_of_local hlocal]
    show Except.ok a.mailbox = _
    cases hm : a.mailbox with
    | none => rfl
    | some m =>
      show _ = (Mailbox.toWire policy m).map some
      rw [Mailbox.toWire_of_not_mem (hlocal m hm)]
      rfl

/-- Passing over an entry in readable form loses what there is to decode. -/
theorem mailbox_toReadable_iff (a : Address) (policy : DomainPolicy) :
    (a.toReadable policy).1.mailbox = a.mailbox.map (Mailbox.toReadable policy) ↔
      ¬ (a.form = some .readable ∧ ∃ m ∈ a.mailbox, Mailbox.toReadable policy m ≠ m) := by
  obtain ⟨hsame, hkept⟩ | ⟨m, hm, -, hform, hnew⟩ := a.toReadable_cases policy
  · have hmap : a.mailbox = a.mailbox.map (Mailbox.toReadable policy) ↔
        ∀ m ∈ a.mailbox, Mailbox.toReadable policy m = m := by
      cases a.mailbox <;> simp [eq_comm]
    rw [hsame, hmap]
    constructor
    · rintro h ⟨-, m, hm, hne⟩
      exact hne (h m hm)
    · intro h m hm
      rcases hkept with hform | hlocal
      · exact not_not.1 fun hne => h ⟨hform, m, hm, hne⟩
      · exact Mailbox.toReadable_of_not_mem (hlocal m hm) policy
  · rw [hnew, hm]
    exact iff_of_true rfl fun h => hform h.1

/-- A conversion tells whether the mailbox reads differently. -/
theorem changed_toReadable_iff (a : Address) (policy : DomainPolicy) :
    (a.toReadable policy).2 = true ↔ (a.toReadable policy).1.mailbox ≠ a.mailbox := by
  obtain ⟨hsame, -⟩ | ⟨m, hm, -, -, hnew⟩ := a.toReadable_cases policy
  · rw [hsame]
    exact iff_of_false Bool.false_ne_true fun h => h rfl
  · rw [hnew, hm, bne_iff_ne]
    exact not_congr Option.some_inj.symm

/-! ## Along any changes -/

/-- What the form that an entry is recorded in says of its mailbox. -/
structure Recorded (c : Domain.Converter) (a : Address) (undecoded : Prop) : Prop where
  wire : a.form = some .wire → ∀ m ∈ a.mailbox, Mailbox.HasAsciiDomain m
  readable : a.form = some .readable → undecoded ∨
    ∀ encode decode, ∀ m ∈ a.mailbox, Mailbox.toReadable ⟨encode, decode, c⟩ m = m

theorem recorded_of_form {undecoded : Prop} (h : a.form = none) : Recorded c a undecoded where
  wire hform := by
    rw [h] at hform
    cases hform
  readable hform := by
    rw [h] at hform
    cases hform

section Run

variable (hascii : c.GivesAscii) (hat : c.AddsNoAt) (hread : c.KeepsReadable)

include hascii hat hread

theorem recorded_run (ha : a.form = none) (changes : List Change) :
    Recorded c (run c a changes) (Undecoded c a changes) := by
  induction changes using List.reverseRecOn with
  | nil => exact recorded_of_form ha
  | append_singleton changes change ih =>
    rw [run_concat]
    obtain hsame | hnone | ⟨encode, decode, m, m', hm', hwire⟩ |
      ⟨encode, decode, m, rfl, hm, hdomain, hform, hnew⟩ := apply_cases c (run c a changes) change
    · rw [hsame]
      exact ⟨ih.wire, fun hform => (ih.readable hform).imp_left fun h => .kept h hsame⟩
    · exact recorded_of_form hnone
    · rw [hwire]
      refine ⟨fun _ => ?_, fun hform => nomatch hform⟩
      rintro _ ⟨⟩
      exact Mailbox.hasAsciiDomain_of_toWire hascii hm'
    · rw [hnew]
      refine ⟨fun hform => (nomatch hform), fun _ => ?_⟩
      cases decode with
      | false => exact .inl (.read encode ⟨m, hm, hdomain⟩ hform)
      | true =>
        right
        rintro encode' decode' _ ⟨⟩
        exact Mailbox.toReadable_toReadable hascii hat hread encode encode' decode' m

/-- After any changes of an entry, a conversion to wire form yields what the mailbox by itself is
    converted to, or fails with the same error. A conversion to readable form does so too, except if
    the entry is recorded as readable by one that was not to decode, and is to be decoded now; and it
    tells whether it has changed the mailbox. -/
theorem conversions_run (ha : a.form = none) (changes : List Change) (encode decode : Bool) :
    let x := run c a changes
    let policy : DomainPolicy := ⟨encode, decode, c⟩
    (x.toWire policy).map Address.mailbox = x.mailbox.mapM (Mailbox.toWire policy) ∧
    ((x.toReadable policy).1.mailbox = x.mailbox.map (Mailbox.toReadable policy) ↔
      ¬ (Undecoded c a changes ∧ ∃ m ∈ x.mailbox, Mailbox.toReadable policy m ≠ m)) ∧
    ((x.toReadable policy).2 = true ↔ (x.toReadable policy).1.mailbox ≠ x.mailbox) := by
  intro x policy
  have hx := recorded_run hascii hat hread ha changes
  refine ⟨map_mailbox_toWire hx.wire policy, ?_, changed_toReadable_iff x policy⟩
  rw [mailbox_toReadable_iff]
  refine not_congr (and_congr_left fun hdecoded => ?_)
  constructor
  · intro hform
    obtain ⟨m, hm, hne⟩ := hdecoded
    exact (hx.readable hform).resolve_right fun h => hne (h encode decode m hm)
  · exact Undecoded.form

end Run

/-- A conversion that is not to decode, and after it one that is. -/
theorem conversions_run_switched :
    let c : Domain.Converter := .knowing "xn--bcher-kva.org".toList "bücher.org".toList
    let a : Address := .ofMailbox "a@xn--bcher-kva.org".toList
    let changes : List Change := [.toReadable true false, .qualify "x.org".toList]
    let x := run c a changes
    let policy : DomainPolicy := ⟨true, true, c⟩
    c.GivesAscii ∧ c.AddsNoAt ∧ c.KeepsReadable ∧ a.form = none ∧ Undecoded c a changes ∧
      (x.toReadable policy).1.mailbox ≠ x.mailbox.map (Mailbox.toReadable policy) := by
  intro c a changes x policy
  have hascii : c.GivesAscii := Domain.Converter.knowing_givesAscii (by decide)
  have hat : c.AddsNoAt := Domain.Converter.knowing_addsNoAt _ (by decide)
  have hread : c.KeepsReadable := Domain.Converter.knowing_keepsReadable (by decide)
  have ha : a.form = none := rfl
  have hfirst : Undecoded c a ([] ++ [.toReadable true false]) :=
    .read true ⟨_, rfl, by decide⟩ (by decide)
  have hundecoded : Undecoded c a changes := .kept hfirst rfl
  have hrun := conversions_run hascii hat hread ha changes true true
  have hdecoded : ∃ m ∈ x.mailbox, Mailbox.toReadable policy m ≠ m := ⟨_, rfl, by decide +kernel⟩
  exact ⟨hascii, hat, hread, ha, hundecoded, hrun.2.1.not.2 (not_not.2 ⟨hundecoded, hdecoded⟩)⟩

/-- The record of a conversion that was not to decode is not what a conversion that is to decode
    yields. -/
theorem toReadable_switched :
    ¬ ∀ (c : Domain.Converter), c.GivesAscii → c.KeepsReadable → ∀ (a : Address), a.form = none →
      ∀ (changes : List Change) (encode decode : Bool),
        ((run c a changes).toReadable ⟨encode, decode, c⟩).1.mailbox =
          (run c a changes).mailbox.map (Mailbox.toReadable ⟨encode, decode, c⟩) := by
  intro h
  have hread := h (.knowing "xn--bcher-kva.org".toList "bücher.org".toList)
    (Domain.Converter.knowing_givesAscii (by decide))
    (Domain.Converter.knowing_keepsReadable (by decide))
    (.ofMailbox "a@xn--bcher-kva.org".toList) rfl [.toReadable true false] true true
  revert hread
  decide +kernel

end Address
end Recipients
