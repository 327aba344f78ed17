import Recipients.Pattern.List

/-
  The user's other addresses: patterns, and patterns for exceptions from them. What is added to one
  list leaves the other.
-/

namespace Recipients

structure Alternates where
  patterns : PatternList := []
  exceptions : PatternList := []

namespace Alternates

def add (engine : Pattern.Engine) (a : Alternates) (source : Text) :
    Alternates × Option PatternError :=
  let (patterns, e) := a.patterns.tryAdd engine source
  (⟨patterns, a.exceptions.remove source⟩, e)

/-- Removing every pattern makes no exception. -/
def remove (engine : Pattern.Engine) (a : Alternates) (source : Text) :
    Alternates × Option PatternError :=
  let (exceptions, e) := a.exceptions.tryAddSingle engine source
  (⟨a.patterns.remove source, exceptions⟩, e)

def isMatch (a : Alternates) (mailbox : Text) : Bool :=
  a.patterns.isMatch mailbox && !a.exceptions.isMatch mailbox

end Alternates
end Recipients
