import Recipients.Book
import Recipients.Command.Grouped

/-
  What each command does to a book. A command that fails midway keeps what it has done, but drops
  the groups that it has made and left empty.
-/

namespace Recipients

/-- How a command ends. -/
inductive Ending where
  | complete
  /-- Words are left that the command did not look at; nothing after them is looked at either. -/
  | cutShort
  | failed (e : CommandError)
  deriving DecidableEq, Repr

/-- What the words of a group command are. -/
inductive MemberKind where
  | pattern
  | address
  deriving DecidableEq, Repr

def MemberKind.ofOption? (t : Text) : Option MemberKind :=
  if t.alike "-rx".toList then some .pattern
  else if t.alike "-addr".toList then some .address
  else none

namespace Book

open Command (GroupedWord LooseGroups)

/-- The word that stands for everything where things are removed. -/
def everything : Text := ['*']

/-- Names groups, which come into being. -/
def nameGroups (b : Book) (ns : GroupNames) (names : List Text) : GroupNames × Book :=
  let found := ns.addAll b.groups names
  (found.1, { b with groups := found.2 })

/-- Gives up a command and drops the groups of it that are empty. -/
def giveUp (b : Book) (ns : GroupNames) (e : CommandError) : Book × Ending :=
  ({ b with groups := ns.removeEmpty b.groups }, .failed e)

/-- Groups that no word follows end a command. -/
def endGroups (b : Book) (ns : GroupNames) : Option LooseGroups → Book × Ending
  | none => (b, .complete)
  | some loose =>
    let named := b.nameGroups ns loose.groups
    giveUp named.2 named.1 loose.error

/-- A text as entries in wire form, of which one at least has a mailbox. -/
def readMembers (b : Book) (t : Text) (bad : CommandError) (badDomain : Text → CommandError) :
    Except CommandError AddressList :=
  match AddressList.parseFreeOnto [] t with
  | (l, .ok (_ + 1)) =>
    match l.toWire b.domainPolicy with
    | (l, []) => .ok l
    | (_, e :: _) => .error (badDomain e.mailbox)
  | _ => .error bad

/-- Defines an alias under the name `name`, whose addresses follow it. -/
def defineAlias (b : Book) (ns : GroupNames) (name : Word) : Book × Ending :=
  let found := Command.next .addresses name.after
  match b.readMembers found.1 (.badAliasAddress found.1.trimEnd name.text)
      (.badAliasDomain · name.text) with
  | .error e => b.giveUp ns e
  | .ok addresses =>
    let plain : Alias := { name := name.text, addresses }
    let a := match Command.comment? found.2 with
      | some comment => plain.annotate comment
      | none => plain
    ({ b with
        aliases := b.aliases.define a
        groups := ns.addAddresses b.groups addresses }, .complete)

def performDefine (b : Book) (words : List Word) : Book × Ending :=
  match Command.grouped [] words with
  | (w :: _, _) =>
    let named := b.nameGroups [] w.groups
    defineAlias named.2 named.1 w.word
  | ([], some loose) => b.endGroups [] loose
  | ([], none) => (b, .failed .noAddress)

def performDelete (b : Book) : List Word → Book × Ending
  | [] => (b, .complete)
  | w :: ws =>
    if w.text = everything then
      ({ b with aliases := b.aliases.deleteAll }, if ws.isEmpty then .complete else .cutShort)
    else performDelete { b with aliases := b.aliases.delete w.text } ws

/-- One change that a word may bring about. -/
abbrev PatternStep := Book → Text → Book × Option PatternError

/-- Takes each word for a pattern. -/
def eachPattern (step : PatternStep) (b : Book) : List Word → Book × Ending
  | [] => (b, .complete)
  | w :: ws =>
    match step b w.text with
    | (b, none) => eachPattern step b ws
    | (b, some e) => (b, .failed (.badPattern e))

/-- Takes each word for a pattern, which the groups that have been named get as well. -/
def eachGroupedPattern (step : PatternStep) (loose : Option LooseGroups) (ns : GroupNames)
    (b : Book) : List GroupedWord → Book × Ending
  | [] => b.endGroups ns loose
  | w :: ws =>
    let named := b.nameGroups ns w.groups
    match step named.2 w.word.text with
    | (b, some e) => b.giveUp named.1 (.badPattern e)
    | (b, none) =>
      match named.1.addPattern b.tools.engine b.groups w.word.text with
      | (groups, some e) => giveUp { b with groups } named.1 (.badPattern e)
      | (groups, none) => eachGroupedPattern step loose named.1 { b with groups } ws

/-- Adds one member to groups. -/
def addMember (b : Book) (ns : GroupNames) (kind : MemberKind) (t : Text) :
    Book × Option CommandError :=
  match kind with
  | .pattern =>
    let found := ns.addPattern b.tools.engine b.groups t
    ({ b with groups := found.1 }, found.2.map .badPattern)
  | .address =>
    match b.readMembers t (.badAddress .group t) (.badDomain .group) with
    | .error e => (b, some e)
    | .ok l => ({ b with groups := ns.addAddresses b.groups l }, none)

/-- Removes one member from groups. A pattern has to be in each of them. -/
def removeMember (b : Book) (ns : GroupNames) (kind : MemberKind) (t : Text) :
    Book × Option CommandError :=
  match kind with
  | .pattern =>
    let found := ns.removePattern b.groups t
    ({ b with groups := found.1 }, if found.2 then none else some (.patternNotFound .ungroup t))
  | .address =>
    match b.readMembers t (.badAddress .ungroup t) (.badDomain .ungroup) with
    | .error e => (b, some e)
    | .ok l => ({ b with groups := ns.removeAddresses b.groups l }, none)

/-- Adds members to groups; `kind` is what the words are. -/
def eachAdded (loose : Option LooseGroups) (ns : GroupNames) (kind : Option MemberKind)
    (b : Book) : List GroupedWord → Book × Ending
  | [] => b.endGroups ns loose
  | w :: ws =>
    let named := b.nameGroups ns w.groups
    match MemberKind.ofOption? w.word.text, kind with
    | some kind, _ => eachAdded loose named.1 (some kind) named.2 ws
    | none, none => giveUp named.2 named.1 (.kindMissing .group)
    | none, some kind =>
      match named.2.addMember named.1 kind w.word.text with
      | (b, none) => eachAdded loose named.1 (some kind) b ws
      | (b, some e) => b.giveUp named.1 e

/-- Removes members from groups, or drops the groups. -/
def eachRemoved (loose : Option LooseGroups) (ns : GroupNames) (kind : Option MemberKind)
    (b : Book) : List GroupedWord → Book × Ending
  | [] => b.endGroups ns loose
  | w :: ws =>
    let named := b.nameGroups ns w.groups
    if w.word.text = everything then
      ({ named.2 with groups := named.1.clear named.2.groups },
        if ws.isEmpty && loose.isNone then .complete else .cutShort)
    else match MemberKind.ofOption? w.word.text, kind with
      | some kind, _ => eachRemoved loose named.1 (some kind) named.2 ws
      | none, none => giveUp named.2 named.1 (.kindMissing .ungroup)
      | none, some kind =>
        match named.2.removeMember named.1 kind w.word.text with
        | (b, none) => eachRemoved loose named.1 (some kind) b ws
        | (b, some e) => b.giveUp named.1 e

/-! The changes that patterns bring about -/

def addAlternate : PatternStep := fun b t =>
  let (alternates, e) := b.alternates.add b.tools.engine t
  ({ b with alternates }, e)

def removeAlternate : PatternStep := fun b t =>
  let (alternates, e) := b.alternates.remove b.tools.engine t
  ({ b with alternates }, e)

/-- A change to the mailing lists. -/
def listStep
    (change : Pattern.Engine → MailingLists → Text → MailingLists × Option PatternError) :
    PatternStep := fun b t =>
  let (lists, e) := change b.tools.engine b.lists t
  ({ b with lists }, e)

/-- Performs a command that has words. -/
def performVerb (b : Book) (words : List Word) : Verb → Book × Ending
  | .define => b.performDefine words
  | .delete => b.performDelete words
  | .group =>
    let found := Command.grouped [] words
    eachAdded found.2 [] none b found.1
  | .ungroup =>
    let found := Command.grouped [] words
    eachRemoved found.2 [] none b found.1
  | .alternates =>
    let found := Command.grouped [] words
    eachGroupedPattern addAlternate found.2 [] b found.1
  | .unalternates => eachPattern removeAlternate b words
  | .lists =>
    let found := Command.grouped [] words
    eachGroupedPattern (listStep MailingLists.addList) found.2 [] b found.1
  | .unlists => eachPattern (listStep MailingLists.removeList) b words
  | .subscribe =>
    let found := Command.grouped [] words
    eachGroupedPattern (listStep MailingLists.subscribe) found.2 [] b found.1
  | .unsubscribe => eachPattern (listStep MailingLists.unsubscribe) b words

def perform (b : Book) (c : Command) : Book × Ending :=
  match Verb.ofName? c.first with
  | none => (b, .failed (.unknown c.first))
  | some verb =>
    if c.words.isEmpty then
      (b, .failed (if verb = .define then .noAddress else .tooFewArguments verb))
    else b.performVerb c.words verb

end Book
end Recipients
