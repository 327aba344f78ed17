import Recipients.Environment
import Recipients.Failure

/-
  The settings that parsing, expansion and classification depend on.
-/

namespace Recipients

structure Settings where
  /-- Whether local mailboxes get a domain when they are expanded. -/
  useDomain : Bool := true
  hostname : Option Text := none
  /-- Whether the first label of the host name may be left out. -/
  hiddenHost : Bool := false
  encodeDomains : Bool := true
  decodeDomains : Bool := true
  charset : Text := "utf-8".toList
  /-- The charset of alias files, where it is another one. -/
  aliasCharset : Option Text := none
  aliasFile : Option Text := none
  /-- The user's own address, as text. -/
  sender : Option Text := none
  username : Option Text := none
  /-- The pattern that finds the real name in the description of an account. -/
  nameMask : Text := "^[^,]*".toList
  /-- The columns of a header line. -/
  wrapColumns : Nat := 74
  deriving DecidableEq, Repr

namespace Settings

/-- The domain of this host; a host name without a dot is none. Where the host may be hidden, and
    is to be, the domain begins after the first label. -/
def domain? (s : Settings) (mayHide : Bool) : Option Text :=
  (s.hostname.filter (·.contains '.')).map fun host =>
    if mayHide && s.hiddenHost then ((Text.cutFirst '.' host).map Prod.snd).getD host else host

/-- The first label of the host name. -/
def shortHost? (s : Settings) : Option Text :=
  (s.hostname.map fun host => host.takeWhile (· != '.')).filter fun label => !label.isEmpty

/-- The login that counts as the user's; an empty one is none. -/
def login? (s : Settings) (env : Environment) : Option Text :=
  (s.username.or env.login?).filter fun login => !login.isEmpty

/-- The user's own address: the first one in the text for it. -/
def senderAddress (s : Settings) : Except Failure (Option Address) :=
  match s.sender with
  | none => .ok none
  | some text =>
    match AddressList.parse text with
    | .error e => .error (.address (.parse e))
    | .ok l =>
      match l.find? fun a => a.mailbox.isSome with
      | some a => .ok (some a)
      | none => .error (.sender text)

def domainPolicy (s : Settings) (converter : Domain.Converter) : DomainPolicy :=
  { encode := s.encodeDomains, decode := s.decodeDomains, converter }

/-- The charset of alias files. -/
def fileCharset (s : Settings) : Except Failure Charset :=
  (Charset.ofLabel (s.aliasCharset.getD s.charset)).mapError fun e => .address (.charset e)

/-- The file that new aliases are added to. -/
def aliasPath (s : Settings) (env : Environment) : Text := s.aliasFile.getD env.aliasPath

end Settings
end Recipients
