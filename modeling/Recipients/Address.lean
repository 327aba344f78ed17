import Recipients.Text

/-
  One entry of an address list. A group opens with a marker (the group flag, no mailbox) and
  closes with a terminator (neither name nor mailbox nor flag); every other entry is a recipient.
  Sameness of mailboxes ignores ASCII case and never holds of an entry without a mailbox.
-/

namespace Recipients

/-- The two forms a domain is known in: as sent in ASCII, or as read by people. -/
inductive Form where
  | wire
  | readable
  deriving DecidableEq, Repr

structure Address where
  personal : Option Text := none
  mailbox : Option Text := none
  group : Bool := false
  /-- The form of the domain, once it has been converted. -/
  form : Option Form := none
  deriving DecidableEq, Repr

namespace Address

/-- Characters with a meaning in address text. -/
def specials : Text := "\"(),.:;<>@[\\]".toList

def isSpecial (c : Char) : Bool := specials.contains c

/-- White space of header lines: space, tab, carriage return, line feed. -/
def isGap (c : Char) : Bool := c == ' ' || c == '\t' || c == '\r' || c == '\n'

def ofMailbox (m : Text) : Address := { mailbox := some m }

def groupMarker (name : Text) : Address :=
  { personal := if name.isEmpty then none else some name, group := true }

def groupEnd : Address := {}

def isGroupMarker (a : Address) : Bool := a.group && a.mailbox.isNone

def isGroupEnd (a : Address) : Bool := !a.group && a.mailbox.isNone && a.personal.isNone

def isEmpty (a : Address) : Bool := a.personal.isNone && a.mailbox.isNone

/-- A changed mailbox may have its domain in either form again. -/
def setMailbox (a : Address) (m : Option Text) : Address := { a with mailbox := m, form := none }

def setPersonal (a : Address) (p : Option Text) : Address := { a with personal := p }

/-- The same mailbox up to ASCII case. -/
def sameMailbox (a b : Address) : Bool :=
  match a.mailbox, b.mailbox with
  | some m, some n => m.alike n
  | _, _ => false

/-- The same mailbox up to ASCII case and the very same name. -/
def sameEntry (a b : Address) : Bool := a.sameMailbox b && a.personal == b.personal

def usesUnicode (a : Address) : Bool := a.mailbox.any fun m => !m.isAscii

/-- The name if there is one, else the mailbox. -/
def label (a : Address) : Text :=
  match a.personal with
  | some (c :: r) => c :: r
  | _ => a.mailbox.getD []

/-- A mailbox without a domain. -/
def isLocal (a : Address) : Bool := a.mailbox.any fun m => !m.contains '@'

theorem sameMailbox_comm (a b : Address) : a.sameMailbox b = b.sameMailbox a := by
  unfold sameMailbox
  cases a.mailbox <;> cases b.mailbox <;> simp [Text.alike_comm]

theorem sameMailbox_trans {a b c : Address} (h : a.sameMailbox b = true)
    (h' : b.sameMailbox c = true) : a.sameMailbox c = true := by
  unfold sameMailbox at *
  split at h <;> split at h' <;> simp_all
  exact Text.alike_trans h h'

end Address
end Recipients
