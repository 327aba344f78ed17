import Recipients.Text
import Recipients.Unicode.Bidi
import Recipients.Unicode.Category
import Recipients.Unicode.Joining
import Recipients.Unicode.Normalization

/-
  What a label of a domain may look like beyond its characters: it does not begin with a mark,
  joiners stand where they have an effect (RFC 5892), and directions do not mix (RFC 5893).
-/

namespace Recipients.Domain

open Unicode

def isMark (c : Char) : Bool :=
  Category.nonspacingMark.contains c || Category.spacingMark.contains c ||
  Category.enclosingMark.contains c

def nonJoiner : Char := Char.ofNat 0x200C

def joiner : Char := Char.ofNat 0x200D

/-- Class 9 is that of the signs that silence a vowel. -/
def isVirama (c : Char) : Bool := combiningClass c == 9

/-- The nearest character that takes part in joining, if it is in `joins` or joins on both sides. -/
def meets (joins : CodeSet) (t : Text) : Bool :=
  match t.dropWhile Joining.transparent.contains with
  | [] => false
  | c :: _ => joins.contains c || Joining.dual.contains c

/-- Whether every joiner may stand where it does; `before` is what has been passed, backwards. -/
def joinersFit (before : Text) : Text → Bool
  | [] => true
  | c :: r =>
    let fits :=
      if c = nonJoiner then
        before.head?.any isVirama || (meets Joining.left before && meets Joining.right r)
      else if c = joiner then before.head?.any isVirama
      else true
    fits && joinersFit (c :: before) r

/-- The characters that make a domain one with right-to-left parts. -/
def isRightward (c : Char) : Bool :=
  match bidiClass c with
  | .rightToLeft | .arabicLetter | .arabicNumber => true
  | _ => false

/-- Classes for the inside of a label of either direction. -/
def isNeutral : BidiClass → Bool
  | .europeanNumber | .europeanSeparator | .commonSeparator | .europeanTerminator
  | .otherNeutral | .boundaryNeutral | .nonspacingMark => true
  | _ => false

/-- The class of the last character that is not a mark. -/
def lastClass? (classes : List BidiClass) : Option BidiClass :=
  (classes.filter fun b => b != .nonspacingMark).getLast?

def leftwardFits (classes : List BidiClass) : Bool :=
  classes.all (fun b => isNeutral b || b == .leftToRight) &&
  (lastClass? classes).any fun b => b == .leftToRight || b == .europeanNumber

def rightwardFits (classes : List BidiClass) : Bool :=
  classes.all (fun b =>
    isNeutral b || b == .rightToLeft || b == .arabicLetter || b == .arabicNumber) &&
  (lastClass? classes).any (fun b =>
    b == .rightToLeft || b == .arabicLetter || b == .europeanNumber || b == .arabicNumber) &&
  !(classes.contains .europeanNumber && classes.contains .arabicNumber)

/-- The direction rule for one label; an empty label breaks none. -/
def directionFits (label : Text) : Bool :=
  match label.map bidiClass with
  | [] => true
  | b :: bs =>
    match b with
    | .leftToRight => leftwardFits (b :: bs)
    | .rightToLeft | .arabicLetter => rightwardFits (b :: bs)
    | _ => false

/-- The rules that each label keeps on its own. -/
def labelFits (label : Text) : Bool := !label.head?.any isMark && joinersFit [] label

end Recipients.Domain
