import Recipients.Address
import Recipients.Pattern.List

/-
  Mailing lists that are known, and those among them that the user reads, each with exceptions.
-/

namespace Recipients

structure MailingLists where
  lists : PatternList := []
  unlists : PatternList := []
  subscribed : PatternList := []
  unsubscribed : PatternList := []

namespace MailingLists

variable (engine : Pattern.Engine)

def addList (m : MailingLists) (source : Text) : MailingLists × Option PatternError :=
  let (lists, e) := m.lists.tryAdd engine source
  ({ m with lists, unlists := m.unlists.remove source }, e)

/-- A list that is forgotten is not subscribed to any more. -/
def removeList (m : MailingLists) (source : Text) : MailingLists × Option PatternError :=
  let (unlists, e) := m.unlists.tryAddSingle engine source
  ({ m with
      lists := m.lists.remove source
      unlists
      subscribed := m.subscribed.remove source }, e)

/-- A list that is subscribed to is known. -/
def subscribe (m : MailingLists) (source : Text) : MailingLists × Option PatternError :=
  let unlists := m.unlists.remove source
  let unsubscribed := m.unsubscribed.remove source
  match m.lists.tryAdd engine source with
  | (lists, some e) => ({ m with lists, unlists, unsubscribed }, some e)
  | (lists, none) =>
    let (subscribed, e) := m.subscribed.tryAdd engine source
    (⟨lists, unlists, subscribed, unsubscribed⟩, e)

def unsubscribe (m : MailingLists) (source : Text) : MailingLists × Option PatternError :=
  let (unsubscribed, e) := m.unsubscribed.tryAddSingle engine source
  ({ m with subscribed := m.subscribed.remove source, unsubscribed }, e)

def isList (m : MailingLists) (a : Address) : Bool :=
  a.mailbox.any fun t => !m.unlists.isMatch t && m.lists.isMatch t

def isSubscribed (m : MailingLists) (a : Address) : Bool :=
  a.mailbox.any fun t => !m.unsubscribed.isMatch t && m.subscribed.isMatch t

end MailingLists
end Recipients
