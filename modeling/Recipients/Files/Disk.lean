import Recipients.Files

/-
  A record of files: their contents by the names that lead to them from the root. A directory is
  there as far as a file or the working directory is in it.
-/

namespace Recipients

structure Disk where
  /-- The working directory. -/
  here : List Text := []
  files : List (List Text × Bytes) := []
  deriving DecidableEq, Repr

namespace Disk

/-- Where a path leads. -/
inductive Place where
  | file (names : List Text) (contents : Bytes)
  | directory (names : List Text)
  | missing (names : List Text)
  deriving DecidableEq, Repr

def contents? (d : Disk) (names : List Text) : Option Bytes := d.files.lookup names

def isDirectory (d : Disk) (names : List Text) : Bool :=
  names.isPrefixOf d.here ||
    d.files.any fun f => names.isPrefixOf f.1 && decide (names.length < f.1.length)

/-- Follows names from a directory. Only the last name may be missing. -/
def follow (d : Disk) (base : List Text) : List Text → Except FileError Place
  | [] => .ok (.directory base)
  | name :: rest =>
    if name = [] ∨ name = ['.'] then follow d base rest
    else if name = ['.', '.'] then follow d base.dropLast rest
    else if d.isDirectory (base ++ [name]) then follow d (base ++ [name]) rest
    else match d.contents? (base ++ [name]), rest with
      | some bs, [] => .ok (.file (base ++ [name]) bs)
      | some _, _ :: _ => .error .notDirectory
      | none, [] => .ok (.missing (base ++ [name]))
      | none, _ :: _ => .error .notFound

def locate (d : Disk) (path : Text) : Except FileError Place :=
  if path.isEmpty then .error .notFound
  else d.follow (if Files.isAbsolute path then [] else d.here) (Text.splitWhen (· == '/') path)

def isThere (d : Disk) (path : Text) : Bool :=
  match d.locate path with
  | .ok (.file ..) | .ok (.directory _) => true
  | _ => false

def read (d : Disk) (path : Text) : Except FileError Bytes :=
  match d.locate path with
  | .ok (.file _ bs) => .ok bs
  | .ok (.directory _) => .error .isDirectory
  | .ok (.missing _) => .error .notFound
  | .error e => .error e

/-- Sets the contents of a file. -/
def put (d : Disk) (names : List Text) (bs : Bytes) : Disk :=
  { d with files := (names, bs) :: d.files.filter fun f => f.1 != names }

/-- A path without the slashes that end it; the root stays as it is. -/
def stem (path : Text) : Text :=
  let names := (path.reverse.dropWhile (· == '/')).reverse
  if names.isEmpty then path else names

/-- Adds to a file. A path that ends in a slash is taken for a directory. -/
def extend (d : Disk) (path : Text) (more : Bytes → Bytes) : Except FileError Disk :=
  match d.locate (stem path) with
  | .error e => .error e
  | .ok place =>
    if stem path = path then
      match place with
      | .file names bs => .ok (d.put names (bs ++ more bs))
      | .missing names => .ok (d.put names (more []))
      | .directory _ => .error .isDirectory
    else .error .isDirectory

/-- The files of a disk that is kept as state. -/
def access : Files (StateM Disk) where
  isThere path := return (← get).isThere path
  read path := return (← get).read path
  extend path more := do
    match (← get).extend path more with
    | .ok d =>
      set d
      return .ok ()
    | .error e => return .error e

theorem contents?_put_self (d : Disk) (names : List Text) (bs : Bytes) :
    (d.put names bs).contents? names = some bs := by simp [contents?, put]

end Disk
end Recipients
