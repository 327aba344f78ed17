import Recipients.AddressList

/-
  The address fields of a message. It goes to those it is addressed to and to those who get copies,
  openly or not; the other fields say who wrote it and where answers go.
-/

namespace Recipients

structure Envelope where
  sender : AddressList := []
  addressees : AddressList := []
  copies : AddressList := []
  blindCopies : AddressList := []
  replyTo : AddressList := []
  followupTo : AddressList := []
  deriving DecidableEq, Repr

namespace Envelope

/-- The fields in the order of the header. -/
def fields (e : Envelope) : List AddressList :=
  [e.sender, e.addressees, e.copies, e.blindCopies, e.replyTo, e.followupTo]

/-- Changes every field in the same way. -/
def map (f : AddressList → AddressList) (e : Envelope) : Envelope where
  sender := f e.sender
  addressees := f e.addressees
  copies := f e.copies
  blindCopies := f e.blindCopies
  replyTo := f e.replyTo
  followupTo := f e.followupTo

def countRecipients (e : Envelope) : Nat :=
  e.addressees.countRecipients + e.copies.countRecipients + e.blindCopies.countRecipients

end Envelope
end Recipients
