import Recipients.AddressList
import Recipients.Domain.Conversion

/-
  Mailboxes in wire form and in readable form. Only the domain is converted, what stands after the
  last at sign. A domain is shown in readable form only if that encodes back to it, so nothing
  is shown that would be sent elsewhere.
-/

namespace Recipients

/-- Which conversions are wanted, and what converts a domain. -/
structure DomainPolicy where
  encode : Bool := true
  decode : Bool := true
  converter : Domain.Converter := .standard

inductive DomainError.Cause where
  | disabled
  | unconvertible
  deriving DecidableEq, Repr

/-- A mailbox that has no wire form. -/
structure DomainError where
  mailbox : Text
  cause : DomainError.Cause
  deriving DecidableEq, Repr

namespace DomainError

def Cause.reason : Cause → Text
  | .disabled => "IDN encoding is disabled".toList
  | .unconvertible => "domain cannot be converted to ASCII".toList

def message (e : DomainError) : Text :=
  "Bad IDN '".toList ++ e.mailbox ++ "': ".toList ++ e.cause.reason

end DomainError

namespace Mailbox

/-- The wire form. A mailbox without a domain, or with an ASCII domain, is in wire form. -/
def toWire (policy : DomainPolicy) (m : Text) : Except DomainError Text :=
  match Text.cutLast '@' m with
  | none => .ok m
  | some (user, domain) =>
    if domain.isAscii then .ok m
    else if !policy.encode then .error ⟨m, .disabled⟩
    else match policy.converter.toAscii domain with
      | some ascii => .ok (user ++ '@' :: ascii)
      | none => .error ⟨m, .unconvertible⟩

/-- Whether one of the labels is an encoded one, in capitals or not. -/
def hasEncodedLabel (domain : Text) : Bool :=
  (Text.splitWhen (· == '.') domain).any fun l => Text.alike (l.take 4) Domain.encodedMark

/-- The readable domain for one in ASCII, where there is one that encodes back to it. -/
def readableDomain? (converter : Domain.Converter) (domain : Text) : Option Text :=
  (converter.toReadable domain).filter fun readable =>
    (converter.toAscii readable).any fun ascii => Text.alike ascii domain

/-- The readable form, or the mailbox itself where it has none. -/
def toReadable (policy : DomainPolicy) (m : Text) : Text :=
  match Text.cutLast '@' m with
  | none => m
  | some (user, domain) =>
    if policy.decode && hasEncodedLabel domain then
      match readableDomain? policy.converter domain with
      | some readable => user ++ '@' :: readable
      | none => m
    else m

end Mailbox

namespace Address

/-- The entry with its mailbox in wire form. One without a domain, or known to be in wire form
    already, stays as it is. -/
def toWire (policy : DomainPolicy) (a : Address) : Except DomainError Address :=
  match a.mailbox with
  | some m =>
    if a.form == some .wire || !m.contains '@' then .ok a
    else match Mailbox.toWire policy m with
      | .ok w => .ok { a with mailbox := some w, form := some .wire }
      | .error e => .error e
  | none => .ok a

/-- The entry with its mailbox in readable form, and whether the mailbox reads differently. -/
def toReadable (policy : DomainPolicy) (a : Address) : Address × Bool :=
  match a.mailbox with
  | some m =>
    if a.form == some .readable || !m.contains '@' then (a, false)
    else
      let readable := Mailbox.toReadable policy m
      ({ a with mailbox := some readable, form := some .readable }, readable != m)
  | none => (a, false)

end Address

namespace AddressList

/-- Every entry in wire form; one that has none stays as it is and is reported. -/
def toWire (policy : DomainPolicy) (l : AddressList) : AddressList × List DomainError :=
  (l.map fun a => (a.toWire policy).toOption.getD a,
    l.filterMap fun a => match a.toWire policy with
      | .ok _ => none
      | .error e => some e)

/-- Every entry in readable form, and how many mailboxes read differently. -/
def toReadable (policy : DomainPolicy) (l : AddressList) : AddressList × Nat :=
  let converted := l.map (·.toReadable policy)
  (converted.map Prod.fst, converted.countP Prod.snd)

end AddressList
end Recipients
