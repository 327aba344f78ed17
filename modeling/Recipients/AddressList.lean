import Recipients.Address

/-
  Lists of entries in the order in which they stand. Of the entries with one mailbox the first is
  kept (`dedupe_append_singleton` is one step of that walk); `qualify` adds a domain to local
  mailboxes outside markers.
-/

namespace Recipients

abbrev AddressList := List Address

namespace AddressList

/-- Every entry, or every entry with a name or a mailbox. -/
def copy (prune : Bool) (l : AddressList) : AddressList :=
  l.filter fun a => !(prune && a.isEmpty)

def search (l : AddressList) (a : Address) : Bool := l.any fun b => b.sameMailbox a

/-- Adds an entry at the end unless its mailbox is there already. -/
def keep (kept : AddressList) (a : Address) : AddressList :=
  if kept.search a then kept else kept ++ [a]

/-- Only the first entry of each mailbox stays; markers and terminators all stay. -/
def dedupe (l : AddressList) : AddressList := l.foldl keep []

theorem dedupe_append_singleton (l : AddressList) (a : Address) :
    dedupe (l ++ [a]) = keep (dedupe l) a := by
  unfold dedupe
  rw [List.foldl_append]
  rfl

/-- Equal name by name and mailbox by mailbox. -/
def equal (l m : AddressList) : Bool :=
  l.map (fun a => (a.mailbox, a.personal)) == m.map fun a => (a.mailbox, a.personal)

def hasMailbox (mailbox : Text) (a : Address) : Bool := a.mailbox.any fun m => m.alike mailbox

def remove (l : AddressList) (mailbox : Text) : AddressList :=
  l.filter fun a => !hasMailbox mailbox a

/-- The entries whose mailbox does not occur in `other`. -/
def without (l other : AddressList) : AddressList := l.filter fun a => !search other a

/-- A local mailbox outside markers gets the domain `host`. -/
def qualifyEntry (host : Text) (a : Address) : Address :=
  match a.mailbox with
  | some m => if a.group || m.contains '@' then a else a.setMailbox (some (m ++ '@' :: host))
  | none => a

/-- An empty host qualifies nothing. -/
def qualify (host : Text) (l : AddressList) : AddressList :=
  if host.isEmpty then l else l.map (qualifyEntry host)

def countRecipients (l : AddressList) : Nat := l.countP fun a => a.mailbox.isSome

def usesUnicode (l : AddressList) : Bool := l.any Address.usesUnicode

/-- The mailboxes in order. -/
def mailboxes (l : AddressList) : List Text := l.filterMap Address.mailbox

end AddressList
end Recipients
