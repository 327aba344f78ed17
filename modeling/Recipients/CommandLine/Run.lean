import Recipients.Book.Source
import Recipients.CommandLine.Invocation
import Recipients.CommandLine.Report
import Recipients.Settings.Stored

/-
  Running the program: the settings are loaded, the alias file and the other files are run, and
  the action does its work on the book that this gives.
-/

namespace Recipients
namespace CommandLine

/-- What reads the arguments of a run, and the JSON that its settings are stored in. -/
structure Readers where
  arguments : List Text → Except Refusal Invocation
  json : Text → Option Json

def Readers.standard : Readers := ⟨Invocation.ofArguments, Json.parse⟩

/-- What a run leaves behind besides files. -/
structure Outcome where
  code : Nat := 0
  stdout : Text := []
  stderr : Text := []
  deriving DecidableEq, Repr

/-- The arguments for addresses as entries; there has to be a mailbox. -/
def readAddresses (texts : List Text) : Except Report AddressList :=
  let text := Text.join [',', ' '] texts
  match AddressList.parseFreeOnto [] text with
  | (_, .error e) => .error (Report.ofChain (AddressError.parse e).chain)
  | (_, .ok 0) => .error ⟨"no address in '".toList ++ text ++ ['\''], []⟩
  | (l, .ok _) => .ok l

def expand (b : Book) (texts : List Text) (display : Bool) : Except Report Text :=
  match readAddresses texts with
  | .error r => .error r
  | .ok l =>
    let expanded := b.expand l
    let write (l : AddressList) : Text :=
      l.writeFolded "To".toList b.settings.wrapColumns ++ ['\n']
    if display then .ok (write (expanded.toReadable b.domainPolicy).1)
    else match expanded.toWire b.domainPolicy with
      | (l, []) => .ok (write l)
      | (_, errors) =>
        .error ⟨Nat.toDigits 10 errors.length ++
          " address(es) could not be converted".toList, []⟩

/-- The lines of the aliases, or of those with a tag. -/
def listAliases (b : Book) (tag : Option Text) : Text :=
  (b.aliases.aliases.filter fun a => tag.all fun t => a.tags.contains t).flatMap fun a =>
    a.line ++ ['\n']

/-- What is known of an address. -/
def findings (b : Book) (a : Address) : List Text :=
  (if b.isUser a then ["user".toList] else []) ++
  (if b.isSubscribed a then ["subscribed list".toList]
    else if b.isList a then ["mailing list".toList] else []) ++
  ((b.aliasFor a).map fun found => "alias ".toList ++ found.name).toList ++
  (b.groups.filter fun g => a.mailbox.any g.isMatch).map fun g => "group ".toList ++ g.name

def checkLine (b : Book) (a : Address) : Text :=
  let found := findings b a
  let text := if found.isEmpty then ['-'] else Text.join [',', ' '] found
  b.display a ++ '\t' :: text ++ ['\n']

def check (b : Book) (texts : List Text) : Except Report Text :=
  (readAddresses texts).map fun l =>
    (l.filter fun a => a.mailbox.isSome).flatMap (checkLine b)

variable {m : Type → Type} [Monad m]

/-- Adds an alias to the book, and as it is then in the book to the alias file. -/
def add (files : Files m) (b : Book) (name : Text) (texts : List Text) (comment : Option Text)
    (tags : List Text) (fixName : Bool) : m (Except Report Text) := do
  let name := if fixName then Alias.safeName name else name
  match readAddresses texts with
  | .error r => return .error r
  | .ok addresses =>
    match b.create { name, addresses, comment, tags } with
    | (_, some f) =>
      return .error (.inDoing ("cannot create alias '".toList ++ name ++ ['\'']) f)
    | (b, none) =>
      match b.aliases.get? name with
      | none => return .ok []
      | some stored =>
        match ← b.append files stored with
        | .error f => return .error (.inDoing ("cannot write ".toList ++ b.aliasPath) f)
        | .ok () => return .ok (stored.line ++ ['\n'])

def perform (files : Files m) (b : Book) : Action → m (Except Report Text)
  | .expand texts display => return expand b texts display
  | .aliases tag => return .ok (listAliases b tag)
  | .check texts => return check b texts
  | .add name texts comment tags fixName => add files b name texts comment tags fixName

/-- One line about a line of a file that failed. -/
def complaint (path : Text) (e : Nat × CommandError) : Text :=
  path ++ ':' :: Nat.toDigits 10 e.1 ++ [':', ' '] ++ e.2.message ++ ['\n']

/-- Runs files one after the other, up to one that cannot be read; yields the complaints about
    their lines as well. -/
def runFiles (files : Files m) (b : Book) : List Text → m (Text × Except Report Book)
  | [] => return ([], .ok b)
  | path :: rest => do
    match ← b.sourceFile files path with
    | .error f => return ([], .error (.inDoing ("cannot read ".toList ++ path) f))
    | .ok (b, errors) =>
      let later ← runFiles files b rest
      return (errors.flatMap (complaint path) ++ later.1, later.2)

/-- The book that settings and files give, with the complaints. -/
def prepare (files : Files m) (readers : Readers) (tools : Tools) (env : Environment)
    (users : Directory) (inv : Invocation) : m (Text × Except Report Book) := do
  let path := inv.config.getD env.settingsPath
  match ← Settings.load files readers.json path with
  | .error f => return ([], .error (.inDoing ("cannot load configuration from ".toList ++ path) f))
  | .ok settings =>
    match Book.empty tools settings env users with
    | .error f => return ([], .error (.ofFailure f))
    | .ok b =>
      let own := if ← files.isThere b.aliasPath then [b.aliasPath] else []
      runFiles files b (own ++ inv.sources)

def usage : Text :=
  ("Usage: addrbook [-c PATH] [-s PATH]... ACTION\n\n" ++
    "Actions:\n" ++
    "  expand [-d] ADDRESSES...\n" ++
    "  aliases [-t TAG]\n" ++
    "  check ADDRESSES...\n" ++
    "  add NAME ADDRESSES... [--comment TEXT] [--tags TAG,...] [--fix-name]\n").toList

def versionText : Text := "addrbook 0.0.2\n".toList

def run (files : Files m) (readers : Readers) (tools : Tools) (env : Environment)
    (users : Directory) (args : List Text) : m Outcome := do
  match readers.arguments args with
  | .error .usage => return { code := 2, stderr := usage }
  | .error .help => return { stdout := usage }
  | .error .version => return { stdout := versionText }
  | .ok inv =>
    match ← prepare files readers tools env users inv with
    | (complaints, .error r) => return { code := 1, stderr := complaints ++ r.write }
    | (complaints, .ok b) =>
      match ← perform files b inv.action with
      | .ok text => return { stdout := text, stderr := complaints }
      | .error r => return { code := 1, stderr := complaints ++ r.write }

end CommandLine
end Recipients
