import Recipients.Alias

/-
  The aliases that are defined, in the order of their definition, with an index from mailboxes to
  the aliases that hold them and a record of every change. Names are told apart up to ASCII case.
-/

namespace Recipients

inductive AliasEvent where
  | added (name : Text)
  | changed (name : Text)
  | deleted (name : Text)
  deriving DecidableEq, Repr

inductive AliasError where
  | taken (name : Text)
  | unknown (name : Text)
  deriving DecidableEq, Repr

def AliasError.message : AliasError → Text
  | .taken name => "Alias already exists: ".toList ++ name
  | .unknown name => "Alias not found: ".toList ++ name

/-- For each mailbox that some alias holds, in small letters, the names of those aliases. -/
abbrev MailboxIndex := List (Text × List Text)

namespace MailboxIndex

/-- The entry for a mailbox. -/
def names? (ix : MailboxIndex) (mailbox : Text) : Option (List Text) := ix.lookup mailbox.lower

/-- The index with `names` for a mailbox. Without names the mailbox has no entry. -/
def put (ix : MailboxIndex) (mailbox : Text) (names : List Text) : MailboxIndex :=
  let others := ix.filter fun p => p.1 != mailbox.lower
  if names.isEmpty then others else (mailbox.lower, names) :: others

/-- Adds a name after those that a mailbox has, unless it is one of them. -/
def enter (name : Text) (ix : MailboxIndex) (mailbox : Text) : MailboxIndex :=
  let names := (ix.names? mailbox).getD []
  if names.any (Text.alike name) then ix else ix.put mailbox (names ++ [name])

/-- Takes a name from those that a mailbox has. -/
def leave (name : Text) (ix : MailboxIndex) (mailbox : Text) : MailboxIndex :=
  match ix.names? mailbox with
  | some names => ix.put mailbox (names.filter fun n => !name.alike n)
  | none => ix

/-- Enters an alias for each of its mailboxes. -/
def add (ix : MailboxIndex) (a : Alias) : MailboxIndex :=
  a.addresses.mailboxes.foldl (enter a.name) ix

/-- Takes an alias from each of its mailboxes. -/
def remove (ix : MailboxIndex) (a : Alias) : MailboxIndex :=
  a.addresses.mailboxes.foldl (leave a.name) ix

end MailboxIndex

structure AliasRegistry where
  aliases : List Alias := []
  index : MailboxIndex := []
  /-- Every change so far, the latest last. -/
  history : List AliasEvent := []
  deriving DecidableEq, Repr

namespace AliasRegistry

def names (r : AliasRegistry) : List Text := r.aliases.map Alias.name

def get? (r : AliasRegistry) (name : Text) : Option Alias := r.aliases.find? (·.isNamed name)

def lookup? (r : AliasRegistry) (name : Text) : Option AddressList :=
  (r.get? name).map Alias.addresses

/-- The alias for a mailbox: the first of those that the index has for it. -/
def holder? (r : AliasRegistry) (a : Address) : Option Alias :=
  a.mailbox.bind fun m => ((r.index.names? m).bind List.head?).bind r.get?

/-- Adds an alias whose name is free. -/
def append (r : AliasRegistry) (a : Alias) : AliasRegistry :=
  { aliases := r.aliases ++ [a]
    index := r.index.add a
    history := r.history ++ [.added a.name] }

/-- Puts `a` in the place of the alias `old`, whose spelling of the name stays. -/
def replace (r : AliasRegistry) (old a : Alias) : AliasRegistry :=
  let new : Alias := { a with name := old.name }
  { aliases := r.aliases.set (r.aliases.findIdx (·.isNamed a.name)) new
    index := (r.index.remove old).add new
    history := r.history ++ [.changed old.name] }

/-- Adds an alias; the name has to be free. -/
def create (r : AliasRegistry) (a : Alias) : AliasRegistry × Option AliasError :=
  match r.get? a.name with
  | some _ => (r, some (.taken a.name))
  | none => (r.append a, none)

/-- Gives an alias that exists a new definition. -/
def redefine (r : AliasRegistry) (a : Alias) : AliasRegistry × Option AliasError :=
  match r.get? a.name with
  | some old => (r.replace old a, none)
  | none => (r, some (.unknown a.name))

/-- Adds an alias or gives it a new definition. -/
def define (r : AliasRegistry) (a : Alias) : AliasRegistry :=
  match r.get? a.name with
  | some old => r.replace old a
  | none => r.append a

def delete (r : AliasRegistry) (name : Text) : AliasRegistry :=
  match r.get? name with
  | none => r
  | some old =>
    { aliases := r.aliases.eraseP (·.isNamed name)
      index := r.index.remove old
      history := r.history ++ [.deleted old.name] }

def deleteAll (r : AliasRegistry) : AliasRegistry :=
  { history := r.history ++ r.aliases.map fun a => .deleted a.name }

end AliasRegistry

/-- One who watches a registry: how much had happened when the watch began. -/
structure AliasWatch where
  start : Nat

namespace AliasWatch

def startOn (r : AliasRegistry) : AliasWatch := ⟨r.history.length⟩

/-- The changes since the watch began. -/
def seen (w : AliasWatch) (r : AliasRegistry) : List AliasEvent := r.history.drop w.start

end AliasWatch
end Recipients
