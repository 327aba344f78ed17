import Recipients.Pattern.List

/-
  The commands by name, and what can be wrong with one.
-/

namespace Recipients

inductive Verb where
  | define
  | delete
  | group
  | ungroup
  | alternates
  | unalternates
  | lists
  | unlists
  | subscribe
  | unsubscribe
  deriving DecidableEq, Repr

namespace Verb

def name : Verb → Text
  | define => "alias".toList
  | delete => "unalias".toList
  | group => "group".toList
  | ungroup => "ungroup".toList
  | alternates => "alternates".toList
  | unalternates => "unalternates".toList
  | lists => "lists".toList
  | unlists => "unlists".toList
  | subscribe => "subscribe".toList
  | unsubscribe => "unsubscribe".toList

def all : List Verb :=
  [define, delete, group, ungroup, alternates, unalternates, lists, unlists, subscribe,
    unsubscribe]

/-- The verb with a name, which is written in small letters. -/
def ofName? (name : Text) : Option Verb := all.find? fun v => v.name == name

theorem ofName?_name (v : Verb) : ofName? v.name = some v := by cases v <;> decide

end Verb

inductive CommandError where
  | unknown (word : Text)
  | tooFewArguments (verb : Verb)
  /-- A word of a group command that no option says the kind of. -/
  | kindMissing (verb : Verb)
  | groupNameMissing
  | outOfArguments
  | noAddress
  | badAliasAddress (text name : Text)
  | badAliasDomain (mailbox name : Text)
  | badAddress (verb : Verb) (text : Text)
  | badDomain (verb : Verb) (mailbox : Text)
  | patternNotFound (verb : Verb) (source : Text)
  | badPattern (e : PatternError)
  deriving DecidableEq, Repr

namespace CommandError

/-- A warning tells of a command that says nothing to do. -/
def isWarning : CommandError → Bool
  | tooFewArguments _ | kindMissing _ | noAddress => true
  | _ => false

def quoted (t : Text) : Text := '\'' :: t ++ ['\'']

def message : CommandError → Text
  | unknown word => word ++ ": unknown command".toList
  | tooFewArguments verb => verb.name ++ ": too few arguments".toList
  | kindMissing verb => verb.name ++ ": missing -rx or -addr".toList
  | groupNameMissing => "-group: no group name".toList
  | outOfArguments => "out of arguments".toList
  | noAddress => "alias: no address".toList
  | badAliasAddress text name =>
    "Warning: Bad address ".toList ++ quoted text ++ " in alias ".toList ++ quoted name
  | badAliasDomain mailbox name =>
    "Warning: Bad IDN ".toList ++ quoted mailbox ++ " in alias ".toList ++ quoted name
  | badAddress verb text => verb.name ++ ": bad address ".toList ++ quoted text
  | badDomain verb mailbox => verb.name ++ ": warning: bad IDN ".toList ++ quoted mailbox
  | patternNotFound verb source =>
    verb.name ++ ": pattern ".toList ++ quoted source ++ " not found".toList
  | badPattern e => e.message

end CommandError
end Recipients
