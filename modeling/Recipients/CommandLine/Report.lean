import Recipients.Failure

/-
  Reports of failures: what could not be done, and what caused it.
-/

namespace Recipients
namespace CommandLine

structure Report where
  headline : Text
  causes : List Text := []
  deriving DecidableEq, Repr

namespace Report

/-- A failure of its own accord. -/
def ofChain : List Text → Report
  | [] => ⟨[], []⟩
  | headline :: causes => ⟨headline, causes⟩

def ofFailure (f : Failure) : Report := ofChain f.chain

/-- A failure that kept something from being done. -/
def inDoing (headline : Text) (f : Failure) : Report := ⟨headline, f.chain⟩

/-- Sets the lines of a text in, the first one by `first`, the others by `width` spaces. -/
def indent (first : Text) (width : Nat) (t : Text) : Text :=
  first ++ Text.join ('\n' :: List.replicate width ' ') (Text.splitWhen (· == '\n') t)

/-- Causes with their numbers. -/
def numbered (n : Nat) : List Text → List Text
  | [] => []
  | cause :: rest =>
    let number := Nat.toDigits 10 n
    indent (List.replicate (5 - number.length) ' ' ++ number ++ [':', ' ']) 7 cause ::
      numbered (n + 1) rest

/-- A single cause has no number. -/
def writtenCauses : List Text → List Text
  | [cause] => [indent [' ', ' ', ' ', ' '] 4 cause]
  | causes => numbered 0 causes

def write (r : Report) : Text :=
  let causes := if r.causes.isEmpty then [] else
    "\n\nCaused by:".toList ++ (writtenCauses r.causes).flatMap fun cause => '\n' :: cause
  "Error: ".toList ++ r.headline ++ causes ++ ['\n']

end Report
end CommandLine
end Recipients
