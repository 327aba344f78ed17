import Recipients.AddressList
import Recipients.Pattern.List

/-
  A group for the classification of mailboxes: addresses and patterns under a name.
-/

namespace Recipients

structure Group where
  name : Text
  addresses : AddressList := []
  patterns : PatternList := []

namespace Group

def isEmpty (g : Group) : Bool := g.addresses.isEmpty && g.patterns.isEmpty

/-- A mailbox belongs to the group by a pattern or by an address. -/
def isMatch (g : Group) (mailbox : Text) : Bool :=
  g.patterns.isMatch mailbox || g.addresses.any (AddressList.hasMailbox mailbox)

/-- Adds the entries whose mailbox is not there yet. -/
def addAddresses (g : Group) (l : AddressList) : Group :=
  { g with addresses := g.addresses ++ l.without g.addresses }

def removeAddresses (g : Group) (l : AddressList) : Group :=
  { g with addresses := l.mailboxes.foldl AddressList.remove g.addresses }

def addPattern (engine : Pattern.Engine) (g : Group) (source : Text) :
    Group × Option PatternError :=
  let (patterns, e) := g.patterns.tryAdd engine source
  ({ g with patterns }, e)

def removePattern (g : Group) (source : Text) : Group :=
  { g with patterns := g.patterns.remove source }

end Group
end Recipients
