import Recipients.AddressList.Parser
import Recipients.Alias.Registry
import Recipients.Charset
import Recipients.Files
import Recipients.Mailbox
import Recipients.Pattern.List

/-
  What can go wrong, by its cause. A failure that passes on another one says so in a few words of
  its own; `causes` tells the whole chain.
-/

namespace Recipients

/-- What is wrong with an address, or with the bytes that it was read from. -/
inductive AddressError where
  | parse (e : ParseError)
  | domain (e : DomainError)
  | charset (e : CharsetError)
  deriving DecidableEq, Repr

namespace AddressError

def message : AddressError → Text
  | parse e => e.message
  | domain e => e.message
  | charset e => e.message

/-- The message, and what is behind it. -/
def chain (e : AddressError) : List Text :=
  e.message :: match e with
    | parse e => [e.reason]
    | _ => []

end AddressError

inductive Failure where
  | address (e : AddressError)
  | pattern (e : PatternError)
  | file (e : FileError)
  /-- Settings that cannot be read. -/
  | settings
  | registry (e : AliasError)
  /-- The text for the user's own address holds none. -/
  | sender (text : Text)
  deriving DecidableEq, Repr

namespace Failure

def message : Failure → Text
  | address e => "Address error: ".toList ++ e.message
  | pattern e => e.message
  | file e => "I/O error: ".toList ++ e.message
  | settings => "Serialization error: malformed settings".toList
  | registry e => e.message
  | sender text => "Configuration error: from: no address in '".toList ++ text ++ ['\'']

/-- The message, and what is behind it. -/
def chain (f : Failure) : List Text :=
  f.message :: match f with
    | address e => e.chain
    | file e => [e.message]
    | _ => []

end Failure
end Recipients
