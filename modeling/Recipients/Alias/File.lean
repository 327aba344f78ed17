import Recipients.Alias.Printer
import Recipients.Failure

/-
  A file of alias lines in some charset. A new alias is one more line at its end; a last line that
  is not finished is finished first.
-/

namespace Recipients

structure AliasFile where
  path : Text
  charset : Charset := .utf8
  deriving DecidableEq, Repr

namespace AliasFile

def lineFeed : UInt8 := 10

/-- What is put in front of a line that is added to `contents`. -/
def finish (contents : Bytes) : Bytes :=
  match contents.getLast? with
  | some b => if b = lineFeed then [] else [lineFeed]
  | none => []

/-- What a file gets for one more alias. -/
def addition (cs : Charset) (a : Alias) : Except CharsetError Bytes := cs.write (a.line ++ ['\n'])

variable {m : Type → Type} [Monad m]

def read (files : Files m) (f : AliasFile) : m (Except Failure Text) := do
  match ← files.read f.path with
  | .error e => return .error (.file e)
  | .ok bs =>
    match f.charset.read bs with
    | .ok t => return .ok t
    | .error e => return .error (.address (.charset e))

/-- Adds an alias. One that the charset cannot hold leaves the file as it is. -/
def append (files : Files m) (f : AliasFile) (a : Alias) : m (Except Failure Unit) := do
  match addition f.charset a with
  | .error e => return .error (.address (.charset e))
  | .ok line =>
    match ← files.extend f.path fun contents => finish contents ++ line with
    | .ok () => return .ok ()
    | .error e => return .error (.file e)

end AliasFile
end Recipients
