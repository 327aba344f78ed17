import Recipients.Alias
import Recipients.AddressList.Printer
import Recipients.Command.Quoting
import Recipients.Unicode.Alphanumeric

/-
  The command line that defines an alias: `alias NAME ADDRESSES # COMMENT tags:A,B`, where the name
  is quoted if it holds a character that is not safe in a name.
-/

namespace Recipients
namespace Alias

/-- Letters and numbers, and a few marks. -/
def isNameCharacter (c : Char) : Bool :=
  Unicode.isAlphanumeric c || c == '-' || c == '_' || c == '+' || c == '=' || c == '.'

def isSafeName (name : Text) : Bool := name.all isNameCharacter

/-- The name with a low line for every character that is not safe. -/
def safeName (name : Text) : Text := name.map fun c => if isNameCharacter c then c else '_'

def writtenName (a : Alias) : Text :=
  if isSafeName a.name then a.name else Command.quoteWord a.name

/-- What follows the addresses. -/
def writtenComment (a : Alias) : Text :=
  let comment := match a.comment with
    | some c => ' ' :: c
    | none => []
  let tags := if a.tags.isEmpty then [] else ' ' :: tagMark ++ a.tagText
  if a.comment.isNone && a.tags.isEmpty then [] else [' ', '#'] ++ comment ++ tags

def line (a : Alias) : Text :=
  "alias ".toList ++ a.writtenName ++ ' ' :: Command.protect a.addresses.write ++ a.writtenComment

end Alias
end Recipients
