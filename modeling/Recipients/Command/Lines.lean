import Recipients.Text

/-
  Logical lines. A line whose last character is a backslash with no other before it goes on in the
  next line; a logical line is known by the number of its first line.
-/

namespace Recipients
namespace Command

/-- A line that goes on, without the backslash that says so. -/
def unfinished? (line : Text) : Option Text :=
  (Text.beforeSuffix? '\\' line).filter fun head => head.getLast? != some '\\'

/-- Joins lines counted from `number`; `begun` is the logical line that is being joined. -/
def joinLines (number : Nat) (begun : Option (Nat × Text)) : List Text → List (Nat × Text)
  | [] => begun.toList
  | line :: rest =>
    let first := begun.getD (number, [])
    match unfinished? line with
    | some head => joinLines (number + 1) (some (first.1, first.2 ++ head)) rest
    | none => (first.1, first.2 ++ line) :: joinLines (number + 1) none rest

/-- The logical lines, each with its number, counted from 1. -/
def logicalLines (lines : List Text) : List (Nat × Text) := joinLines 1 none lines

end Command
end Recipients
