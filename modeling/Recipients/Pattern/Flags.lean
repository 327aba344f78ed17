import Recipients.Pattern.CharClass

/-
  Flags, which say how pattern text is read: what a character stands for, and whether blanks and
  comments between the signs mean nothing.
-/

namespace Recipients.Pattern

structure Flags where
  ignoreCase : Bool := false
  multiLine : Bool := false
  dotMatchesLineEnd : Bool := false
  swapGreed : Bool := false
  crlf : Bool := false
  /-- Blanks and comments in the pattern mean nothing. -/
  spaced : Bool := false
  unicode : Bool := true
  deriving DecidableEq, Repr

/-- Something read, and the text after it. -/
abbrev Read (α : Type) := Option (α × Text)

/-- Drops blanks, and comments from a number sign to the end of the line. -/
def dropSpaces : (inComment : Bool) → Text → Text
  | _, [] => []
  | true, c :: r => dropSpaces (c != '\n') r
  | false, c :: r =>
    if c = '#' then dropSpaces true r
    else if Text.isBlank c then dropSpaces false r
    else c :: r

namespace Flags

/-- Passes over what means nothing. -/
def skip (f : Flags) (t : Text) : Text := if f.spaced then dropSpaces false t else t

/-- The character after `c` in `c :: t` that a range is told by. In spaced text the sign of one
    comment is passed over together with the blanks. -/
def ahead (f : Flags) (t : Text) : Option Char :=
  if f.spaced then
    let r := match t.dropWhile Text.isBlank with
      | '#' :: r => r.dropWhile Text.isBlank
      | r => r
    r.head?.or t.head?
  else t.head?

def fold (f : Flags) (c : CharClass) : CharClass :=
  if f.ignoreCase then .fold (!f.unicode) c else c

/-- Without Unicode a class holds no character outside ASCII, so none can be negated. -/
def negate (f : Flags) (negated : Bool) (c : CharClass) : Option CharClass :=
  if negated then (if f.unicode then some (.compl c) else none) else some c

/-- Sets the flag with a letter. -/
def set (f : Flags) (letter : Char) (on : Bool) : Option Flags :=
  match letter with
  | 'i' => some { f with ignoreCase := on }
  | 'm' => some { f with multiLine := on }
  | 's' => some { f with dotMatchesLineEnd := on }
  | 'U' => some { f with swapGreed := on }
  | 'R' => some { f with crlf := on }
  | 'x' => some { f with spaced := on }
  | 'u' => some { f with unicode := on }
  | _ => none

end Flags

end Recipients.Pattern
