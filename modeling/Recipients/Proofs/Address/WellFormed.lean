import Recipients.Address.Token
import Recipients.AddressList.Printer

/-
  Entries whose written form can be read again. A name has a special character, and is quoted
  then, or it is a row of words with single spaces between them. A mailbox is `@`, or a local part
  of ordinary characters and dots, or that or a quoted string with a domain after it.
-/

namespace Recipients
namespace Address

/-- Words with single spaces between them, one word at least. -/
def IsPhrase (t : Text) : Prop :=
  ∃ ws : List Text, ws ≠ [] ∧ (∀ w ∈ ws, w ≠ [] ∧ ∀ c ∈ w, isGap c = false) ∧ t = Text.join [' '] ws

def WellFormedName (n : Text) : Prop := n ≠ [] ∧ ((∃ c ∈ n, isSpecial c = true) ∨ IsPhrase n)

/-- Ordinary characters and dots, one at least. -/
def IsLocalPart (t : Text) : Prop := t ≠ [] ∧ ∀ c ∈ t, isOrdinary c = true ∨ c = '.'

/-- Ordinary characters, dots and square brackets, possibly none. -/
def IsDomainPart (t : Text) : Prop := ∀ c ∈ t, isOrdinary c = true ∨ c = '.' ∨ c = '[' ∨ c = ']'

instance (t : Text) : Decidable (IsLocalPart t) :=
  @instDecidableAnd _ _ inferInstance (List.decidableBAll _ t)

instance (t : Text) : Decidable (IsDomainPart t) := List.decidableBAll _ t

inductive WellFormedMailbox : Text → Prop
  | null : WellFormedMailbox ['@']
  | bare {t : Text} (ht : IsLocalPart t) : WellFormedMailbox t
  | qualified {t d : Text} (ht : IsLocalPart t) (hd : IsDomainPart d) : WellFormedMailbox (t ++ '@' :: d)
  | quotedLocal (s : Text) {d : Text} (hd : IsDomainPart d) : WellFormedMailbox (quoted s ++ '@' :: d)

/-- A terminator, a marker whose name is well formed if it has one, or a recipient with a
    well-formed mailbox and such a name. -/
inductive WellFormed (a : Address) : Prop
  | terminator (hg : a.group = false) (hm : a.mailbox = none) (hp : a.personal = none)
  | marker (hg : a.group = true) (hm : a.mailbox = none) (hp : ∀ n ∈ a.personal, WellFormedName n)
  | recipient (m : Text) (hg : a.group = false) (hm : a.mailbox = some m)
      (hmail : WellFormedMailbox m) (hp : ∀ n ∈ a.personal, WellFormedName n)

/-- The entry as it is before its domain is converted. -/
def unconverted (a : Address) : Address := { a with form := none }

end Address

/-- Every entry of the list is well formed. -/
def AddressList.WellFormed (l : AddressList) : Prop := ∀ a ∈ l, a.WellFormed

end Recipients
