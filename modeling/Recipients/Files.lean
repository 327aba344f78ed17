import Recipients.Charset.Utf8

/-
  What the library asks of files: whether one is there, what it holds, and that something is added
  to it. `Files` stands for any place that answers these questions, real or recorded.
-/

namespace Recipients

inductive FileError where
  | notFound
  | denied
  | notDirectory
  | isDirectory
  | notText
  | other (description : Text)
  deriving DecidableEq, Repr

def FileError.message : FileError → Text
  | notFound => "No such file or directory (os error 2)".toList
  | denied => "Permission denied (os error 13)".toList
  | notDirectory => "Not a directory (os error 20)".toList
  | isDirectory => "Is a directory (os error 21)".toList
  | notText => "stream did not contain valid UTF-8".toList
  | other description => description

/-- Access to files by their paths. -/
structure Files (m : Type → Type) where
  isThere : Text → m Bool
  read : Text → m (Except FileError Bytes)
  /-- Adds to the end of a file what a function gives for its contents; a missing file is made. -/
  extend : Text → (Bytes → Bytes) → m (Except FileError Unit)

namespace Files

variable {m : Type → Type} [Monad m]

/-- The contents of a file in UTF-8. -/
def readText (files : Files m) (path : Text) : m (Except FileError Text) := do
  match ← files.read path with
  | .error e => return .error e
  | .ok bs =>
    match Utf8.decode bs with
    | some t => return .ok t
    | none => return .error .notText

/-- A path that begins at `path`, unless it begins at the root. -/
def join (path more : Text) : Text :=
  if more.head? == some '/' || path.isEmpty then more
  else if path.getLast? == some '/' then path ++ more
  else path ++ '/' :: more

def isAbsolute (path : Text) : Bool := path.head? == some '/'

end Files
end Recipients
