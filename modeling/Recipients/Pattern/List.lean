import Recipients.Pattern

/-
  Lists of patterns in the order in which they were added, each source once.
-/

namespace Recipients

inductive PatternError where
  | invalid
  deriving DecidableEq, Repr

def PatternError.message : PatternError → Text
  | .invalid => "Invalid pattern".toList

abbrev PatternList := List Pattern

namespace PatternList

/-- The source that stands for every pattern where patterns are removed. -/
def everyPattern : Text := ['*']

def sources (ps : PatternList) : List Text := ps.map Pattern.source

def contains (ps : PatternList) (source : Text) : Bool := ps.any fun p => p.source == source

/-- Adds a pattern at the end unless its source is there already; a list that cannot take it stays
    as it is. -/
def add (engine : Pattern.Engine) (ps : PatternList) (source : Text) (ignoreCase : Bool) :
    PatternList × Option PatternError :=
  if ps.contains source then (ps, none)
  else match Pattern.compile engine source ignoreCase with
    | some p => (ps ++ [p], none)
    | none => (ps, some .invalid)

def remove (ps : PatternList) (source : Text) : PatternList :=
  if source = everyPattern then [] else ps.filter fun p => p.source != source

def isMatch (ps : PatternList) (t : Text) : Bool := ps.any (·.isMatch t)

/-- Adds a pattern that ignores case. -/
def tryAdd (engine : Pattern.Engine) (ps : PatternList) (source : Text) :
    PatternList × Option PatternError := ps.add engine source true

/-- Adds a pattern that ignores case, except the source that stands for every pattern. -/
def tryAddSingle (engine : Pattern.Engine) (ps : PatternList) (source : Text) :
    PatternList × Option PatternError :=
  if source = everyPattern then (ps, none) else ps.tryAdd engine source

end PatternList
end Recipients
