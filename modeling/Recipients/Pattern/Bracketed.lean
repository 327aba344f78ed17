import Recipients.Pattern.Escape

/-
  Classes in brackets: characters, ranges and classes one after the other, and operations on what
  stands to their left and right. Classes that are still open are kept in a list, the innermost in
  front.
-/

namespace Recipients.Pattern

inductive SetOp where
  | inter
  | diff
  | symmDiff

/-- A bracketed class that is still open: what it holds, how many items that are and how deep they
    nest, and what an operation before them is to be applied to. -/
structure OpenSet where
  negated : Bool
  held : CharClass := .nothing
  count : Nat := 0
  depth : Nat := 0
  left : Option (SetOp × CharClass × Nat) := none

namespace OpenSet

def add (s : OpenSet) (c : CharClass) (depth : Nat) : OpenSet :=
  { s with held := .union s.held c, count := s.count + 1, depth := max s.depth depth }

/-- What the class holds, the operation done, and how deep it nests. -/
def value (f : Flags) (s : OpenSet) : CharClass × Nat :=
  let depth := if s.count < 2 then s.depth else s.depth + 1
  match s.left with
  | none => (s.held, depth)
  | some (op, left, leftDepth) =>
    let a := f.fold left
    let b := f.fold s.held
    let c := match op with
      | .inter => .inter a b
      | .diff => .diff a b
      | .symmDiff => .symmDiff a b
    (c, max leftDepth depth + 1)

/-- Starts on the right side of an operation. -/
def operate (f : Flags) (s : OpenSet) (op : SetOp) : OpenSet :=
  let (c, depth) := s.value f
  { negated := s.negated, left := some (op, c, depth) }

end OpenSet

/-- Hyphens at the start of a class are members. -/
def readHyphens (f : Flags) (s : OpenSet) (t : Text) : OpenSet × Text :=
  match t with
  | '-' :: r =>
    let rest := f.skip r
    if _h : rest.length ≤ r.length then readHyphens f (s.add (.ofChar '-') 0) rest else (s, t)
  | _ => (s, t)
termination_by t.length
decreasing_by exact Nat.lt_succ_of_le _h

/-- Reads on after an opening bracket: a sign for negation, and a closing bracket that is a member
    because the class would be empty otherwise. -/
def openSet (f : Flags) (t : Text) : Read OpenSet :=
  let t := f.skip t
  let (negated, t) := match t with
    | '^' :: r => (true, f.skip r)
    | t => (false, t)
  let (s, t) := readHyphens f { negated } t
  let (s, t) := match t with
    | ']' :: r => if s.count == 0 then (s.add (.ofChar ']') 0, f.skip r) else (s, t)
    | t => (s, t)
  if t.isEmpty then none else some (s, t)

/-- The ASCII class with a name. -/
def asciiClass? (name : Text) : Option CharClass :=
  let upper := CharClass.range 0x41 0x5A
  let lower := CharClass.range 0x61 0x7A
  let digits := CharClass.range 0x30 0x39
  let alpha := CharClass.union upper lower
  let classes : List (String × CharClass) := [
    ("alnum", .union digits alpha),
    ("alpha", alpha),
    ("ascii", .range 0 0x7F),
    ("blank", .union (.ofChar '\t') (.ofChar ' ')),
    ("cntrl", .union (.range 0 0x1F) (.ofChar (Char.ofNat 0x7F))),
    ("digit", digits),
    ("graph", .range 0x21 0x7E),
    ("lower", lower),
    ("print", .range 0x20 0x7E),
    ("punct", .union (.union (.range 0x21 0x2F) (.range 0x3A 0x40))
      (.union (.range 0x5B 0x60) (.range 0x7B 0x7E))),
    ("space", asciiBlank),
    ("upper", upper),
    ("word", asciiWord),
    ("xdigit", .union digits (.union (.range 0x41 0x46) (.range 0x61 0x66)))]
  (classes.find? fun c => c.1.toList == name).map Prod.snd

/-- A class such as `:alpha:` between brackets, after the opening one; `none` where there is no such
    name. -/
def readAsciiClass (f : Flags) (t : Text) : Option (Option CharClass × Text) :=
  match t with
  | ':' :: r =>
    let (negated, r) := match r with
      | '^' :: r => (true, r)
      | r => (false, r)
    match Text.cutFirst ':' r with
    | some (name, ']' :: rest) =>
      (asciiClass? name).map fun c => (f.negate negated (f.fold c), rest)
    | _ => none
  | _ => none

def readSetItem (f : Flags) : Text → Read Item
  | [] => none
  | '\\' :: r => readEscape f r
  | c :: r => some (.literal c false, r)

/-- The member that a literal of a class is. -/
def member? (f : Flags) (c : Char) (byte : Bool) : Option Char :=
  (scalar? f c byte).filter fun c => f.unicode || c.toNat < 128

/-- An item of a class, or a range between two. -/
def readSetRange (f : Flags) (t : Text) : Read CharClass :=
  (readSetItem f t).bind fun (item, r) =>
    let rest := f.skip r
    match rest with
    | [] => none
    | c :: r' =>
      if c != '-' || f.ahead r' == some ']' || f.ahead r' == some '-' then
        match item with
        | .literal d byte => (member? f d byte).map fun d => (.ofChar d, rest)
        | .charClass k => some (k, rest)
        | .look _ | .dot => none
      else
        match item, readSetItem f (f.skip r') with
        | .literal a byteA, some (.literal b byteB, u) =>
          match member? f a byteA, member? f b byteB with
          | some a, some b => if a ≤ b then some (.range a.toNat b.toNat, u) else none
          | _, _ => none
        | _, _ => none

/-- One round of reading a class: it goes on, or is closed for good. -/
inductive SetRound where
  | goesOn (s : OpenSet) (outer : List OpenSet) (rest : Text)
  | closed (c : CharClass) (depth : Nat) (rest : Text)

/-- A closing bracket makes the class a member of the one around it, or the class that was to be
    read. -/
def closeSet (f : Flags) (s : OpenSet) (outer : List OpenSet) (rest : Text) : Option SetRound :=
  let (c, depth) := s.value f
  (f.negate s.negated (f.fold c)).map fun c =>
    match outer with
    | [] => .closed c (depth + 1) rest
    | o :: os => .goesOn (o.add c (depth + 1)) os rest

def setRound (f : Flags) (s : OpenSet) (outer : List OpenSet) (t : Text) : Option SetRound :=
  match f.skip t with
  | [] => none
  | '[' :: r =>
    match readAsciiClass f r with
    | some (c, rest) => c.map fun c => .goesOn (s.add c 0) outer rest
    | none => (openSet f r).map fun (inner, rest) => .goesOn inner (s :: outer) rest
  | ']' :: r => closeSet f s outer r
  | '&' :: '&' :: r => some (.goesOn (s.operate f .inter) outer r)
  | '-' :: '-' :: r => some (.goesOn (s.operate f .diff) outer r)
  | '~' :: '~' :: r => some (.goesOn (s.operate f .symmDiff) outer r)
  | u => (readSetRange f u).map fun (c, rest) => .goesOn (s.add c 0) outer rest

/-- Reads on inside a class to its closing bracket; yields it and how deep it nests. -/
def readSet (f : Flags) (s : OpenSet) (outer : List OpenSet) (t : Text) :
    Option (CharClass × Nat × Text) :=
  match setRound f s outer t with
  | none => none
  | some (.closed c depth rest) => some (c, depth, rest)
  | some (.goesOn s' outer' rest) =>
    if _h : rest.length < t.length then readSet f s' outer' rest else none
termination_by t.length
decreasing_by exact _h

end Recipients.Pattern
