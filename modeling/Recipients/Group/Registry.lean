import Recipients.Group

/-
  The groups that are known, each name once, and the groups that one command is about. A group that
  is named comes into being; one that loses its last member goes.
-/

namespace Recipients

abbrev GroupRegistry := List Group

namespace GroupRegistry

def get? (r : GroupRegistry) (name : Text) : Option Group := r.find? fun g => g.name == name

/-- The group with a name, which is new and empty if there is none. -/
def get (r : GroupRegistry) (name : Text) : Group := (r.get? name).getD { name }

/-- Puts a group in the place of the one with its name, or at the end. -/
def put (r : GroupRegistry) (g : Group) : GroupRegistry :=
  if (r.get? g.name).isSome then r.map fun h => if h.name == g.name then g else h
  else r ++ [g]

def remove (r : GroupRegistry) (name : Text) : GroupRegistry := r.filter fun g => g.name != name

def isMatch (r : GroupRegistry) (name mailbox : Text) : Bool :=
  (r.get? name).any fun g => g.isMatch mailbox

/-- Makes sure that there is a group with the name. -/
def found (r : GroupRegistry) (name : Text) : GroupRegistry := r.put (r.get name)

def removeIfEmpty (r : GroupRegistry) (name : Text) : GroupRegistry :=
  if (r.get? name).any Group.isEmpty then r.remove name else r

/-- Changes a group that there is, and drops it if nothing is left in it. -/
def shrink (r : GroupRegistry) (name : Text) (f : Group → Group) : GroupRegistry :=
  match r.get? name with
  | some g => (r.put (f g)).removeIfEmpty name
  | none => r

end GroupRegistry

/-- The names of the groups that a command is about, each once. -/
abbrev GroupNames := List Text

namespace GroupNames

/-- Names one more group. -/
def add (ns : GroupNames) (r : GroupRegistry) (name : Text) : GroupNames × GroupRegistry :=
  (if ns.contains name then ns else ns ++ [name], r.found name)

/-- Names more groups. -/
def addAll (ns : GroupNames) (r : GroupRegistry) (names : List Text) :
    GroupNames × GroupRegistry :=
  names.foldl (fun found name => GroupNames.add found.1 found.2 name) (ns, r)

def addAddresses (ns : GroupNames) (r : GroupRegistry) (l : AddressList) : GroupRegistry :=
  ns.foldl (fun r n => r.put ((r.get n).addAddresses l)) r

def removeAddresses (ns : GroupNames) (r : GroupRegistry) (l : AddressList) : GroupRegistry :=
  ns.foldl (fun r n => r.shrink n (·.removeAddresses l)) r

/-- Adds a pattern to every group, up to the first one that cannot take it. -/
def addPattern (engine : Pattern.Engine) : (ns : GroupNames) → GroupRegistry → (source : Text) →
    GroupRegistry × Option PatternError
  | [], r, _ => (r, none)
  | n :: ns, r, source =>
    match (r.get n).addPattern engine source with
    | (g, none) => addPattern engine ns (r.put g) source
    | (g, some e) => (r.put g, some e)

/-- Removes a pattern from every group; says whether each of them had it. -/
def removePattern : (ns : GroupNames) → GroupRegistry → (source : Text) → GroupRegistry × Bool
  | [], r, _ => (r, true)
  | n :: ns, r, source =>
    let had := (r.get? n).any fun g =>
      (g.removePattern source).patterns.length != g.patterns.length
    let (r', all) := removePattern ns (r.shrink n (·.removePattern source)) source
    (r', had && all)

/-- Drops the groups that are still empty. -/
def removeEmpty (ns : GroupNames) (r : GroupRegistry) : GroupRegistry :=
  ns.foldl GroupRegistry.removeIfEmpty r

/-- Drops the groups. -/
def clear (ns : GroupNames) (r : GroupRegistry) : GroupRegistry := ns.foldl GroupRegistry.remove r

end GroupNames
end Recipients
