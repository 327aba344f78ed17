import Recipients.Alias.Expansion
import Recipients.Alias.File
import Recipients.Classification.Alternates
import Recipients.Classification.MailingLists
import Recipients.Directory
import Recipients.Envelope
import Recipients.Group.Registry
import Recipients.Settings
import Recipients.Tools

/-
  The address book: aliases, groups and the patterns that classify addresses, with the settings
  and the tools that they depend on.
-/

namespace Recipients

structure Book where
  tools : Tools
  settings : Settings
  environment : Environment
  directory : Directory
  nameMask : Pattern
  aliases : AliasRegistry := {}
  groups : GroupRegistry := []
  alternates : Alternates := {}
  lists : MailingLists := {}

/-- The header field that an answer goes by. -/
inductive ReplyField where
  | addressees
  | copies
  | replyTo
  | sender
  deriving DecidableEq, Repr

def ReplyField.label : ReplyField → Text
  | addressees => "To".toList
  | copies => "Cc".toList
  | replyTo => "Reply-To".toList
  | sender => "From".toList

namespace Book

/-- A book without entries. The pattern for real names has to be one. -/
def empty (tools : Tools) (settings : Settings) (environment : Environment) (directory : Directory) :
    Except Failure Book :=
  match Pattern.compile tools.engine settings.nameMask false with
  | some nameMask => .ok { tools, settings, environment, directory, nameMask }
  | none => .error (.pattern .invalid)

theorem eq_of_empty {tools : Tools} {settings : Settings} {environment : Environment}
    {directory : Directory} {b : Book} (h : empty tools settings environment directory = .ok b) :
    ∃ nameMask, b = { tools, settings, environment, directory, nameMask } := by
  unfold empty at h
  split at h
  · exact ⟨_, (Except.ok.inj h).symm⟩
  · cases h

def domainPolicy (b : Book) : DomainPolicy := b.settings.domainPolicy b.tools.converter

/-- The path of the file for new aliases. -/
def aliasPath (b : Book) : Text := b.settings.aliasPath b.environment

/-! Expansion -/

def expander (b : Book) : Expander where
  aliases := b.aliases
  realName := b.directory.realName? b.nameMask
  domain := if b.settings.useDomain then b.settings.domain? true else none

/-- Expands the aliases in a list and leaves each mailbox once. -/
def expand (b : Book) (l : AddressList) : AddressList := b.expander.expand l

def expandFields (b : Book) (e : Envelope) : Envelope := e.map b.expand

/-! Classification -/

/-- Whether a mailbox is that of a user at a host. -/
def isAt (user host mailbox : Text) : Bool :=
  match Text.cutFirst '@' mailbox with
  | some (name, domain) => name.alike user && domain.alike host
  | none => false

/-- The names that this host goes by. -/
def hosts (b : Book) : List Text :=
  [b.settings.shortHost?, b.settings.domain? false, b.settings.domain? true].filterMap id

/-- Whether a mailbox is the login of the user, alone or at this host. -/
def isLogin (b : Book) (mailbox : Text) : Bool :=
  (b.settings.login? b.environment).any fun user =>
    mailbox.alike user || b.hosts.any fun host => isAt user host mailbox

/-- Whether an address is the user's own address. -/
def isSender (b : Book) (a : Address) : Bool :=
  match b.settings.senderAddress with
  | .ok (some own) => own.sameMailbox a
  | _ => false

/-- Whether an address belongs to the user. -/
def isUser (b : Book) (a : Address) : Bool :=
  a.mailbox.any fun mailbox =>
    b.isLogin mailbox || b.isSender a || b.alternates.isMatch mailbox

def isList (b : Book) (a : Address) : Bool := b.lists.isList a

def isSubscribed (b : Book) (a : Address) : Bool := b.lists.isSubscribed a

def inGroup (b : Book) (name mailbox : Text) : Bool := b.groups.isMatch name mailbox

/-- The alias that an address is known by. -/
def aliasFor (b : Book) (a : Address) : Option Alias := b.aliases.holder? a

/-- The field to answer to. A message that the user wrote is answered to the one it went to; lists
    are passed over for people. -/
def replyField (b : Book) (e : Envelope) : ReplyField :=
  if e.sender.head?.any b.isUser then
    if e.addressees.head?.any fun a => !b.isList a then .addressees else .copies
  else if e.replyTo.head?.any fun a => !b.isList a then .replyTo
  else .sender

def replyList (b : Book) (e : Envelope) : AddressList :=
  match b.replyField e with
  | .addressees => e.addressees
  | .copies => e.copies
  | .replyTo => e.replyTo
  | .sender => e.sender

/-- An address as it is shown to the user. -/
def display (b : Book) (a : Address) : Text := a.render (Mailbox.toReadable b.domainPolicy)

/-! New aliases -/

/-- Adds an alias, with its mailboxes in wire form. -/
def create (b : Book) (a : Alias) : Book × Option Failure :=
  match a.addresses.toWire b.domainPolicy with
  | (_, e :: _) => (b, some (.address (.domain e)))
  | (addresses, []) =>
    let (aliases, e) := b.aliases.create { a with addresses }
    ({ b with aliases }, e.map .registry)

/-- Adds an alias to the file for new aliases. -/
def append {m : Type → Type} [Monad m] (files : Files m) (b : Book) (a : Alias) :
    m (Except Failure Unit) := do
  match b.settings.fileCharset with
  | .error e => return .error e
  | .ok charset => AliasFile.append files { path := b.aliasPath, charset } a

end Book
end Recipients
