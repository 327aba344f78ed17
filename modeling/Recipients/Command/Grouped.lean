import Recipients.Command.Error
import Recipients.Command.Line

/-
  Words with groups. In some commands `-group NAME` may stand in front of a word, any number of
  times; it names a group for this word and the words after it.
-/

namespace Recipients
namespace Command

/-- A word and the groups that are named right in front of it. -/
structure GroupedWord where
  groups : List Text
  word : Word
  deriving DecidableEq, Repr

/-- Groups that no word follows, and what is wrong there. -/
structure LooseGroups where
  groups : List Text
  error : CommandError
  deriving DecidableEq, Repr

def isGroupOption (w : Word) : Bool := w.text.alike "-group".toList

/-- The words with the groups in front of them; `named` holds the groups named so far in front of
    the next word. -/
def grouped (named : List Text) : List Word → List GroupedWord × Option LooseGroups
  | [] => ([], none)
  | [w] =>
    if isGroupOption w then ([], some ⟨named, .groupNameMissing⟩) else ([⟨named, w⟩], none)
  | w :: n :: ws =>
    if isGroupOption w then
      match ws with
      | [] => ([], some ⟨named ++ [n.text], .outOfArguments⟩)
      | w' :: ws => grouped (named ++ [n.text]) (w' :: ws)
    else
      let more := grouped [] (n :: ws)
      (⟨named, w⟩ :: more.1, more.2)

end Command
end Recipients
