import Recipients.Pattern.Bracketed

/-
  Reading pattern text. A pattern is alternatives of sequences; a sequence is made of characters,
  classes, groups and looks, each perhaps repeated. Flags hold from where they are set to the end
  of the group. Groups that are still open are kept in a list, and every round of reading has to
  leave less text.
-/

namespace Recipients.Pattern

/-- Part of a sequence and how deep it nests; `none` is a setting of flags. -/
structure Part where
  regex : Option Regex
  depth : Nat := 0

/-- An open group: the flags in force and its parts and finished alternatives, the last in front. -/
structure OpenGroup where
  flags : Flags
  parts : List Part := []
  alternatives : List Part := []

/-- The deepest nesting of a pattern. -/
def depthLimit : Nat := 250

/-- About the most room that a compiled pattern may take. -/
def weightLimit : Nat := 320000

namespace OpenGroup

def push (g : OpenGroup) (r : Regex) (depth : Nat) : OpenGroup :=
  { g with parts := ⟨some r, depth⟩ :: g.parts }

/-- The parts as one sequence. -/
def sequence (g : OpenGroup) : Part :=
  match g.parts with
  | [] => ⟨some .empty, 0⟩
  | [p] => ⟨some (p.regex.getD .empty), p.depth⟩
  | ps =>
    ⟨some (ps.foldl (fun r p => ((p.regex.getD .empty).andThen r)) .empty),
      (ps.map Part.depth).foldl max 0 + 1⟩

/-- Starts on another alternative. -/
def divide (g : OpenGroup) : OpenGroup :=
  { g with parts := [], alternatives := g.sequence :: g.alternatives }

/-- All of it as one expression. -/
def whole (g : OpenGroup) : Regex × Nat :=
  match g.divide.alternatives with
  | [] => (.empty, 0)
  | p :: ps =>
    (ps.foldl (fun r q => .alt (q.regex.getD .empty) r) (p.regex.getD .empty),
      if ps.isEmpty then p.depth else ((p :: ps).map Part.depth).foldl max 0 + 1)

/-- Repeats the last part, which has to be more than a setting of flags. -/
def repeated (g : OpenGroup) (lazy : Bool) (f : (greedy : Bool) → Regex → Regex) :
    Option OpenGroup :=
  match g.parts with
  | ⟨some r, depth⟩ :: ps =>
    some { g with parts := ⟨some (f (lazy == g.flags.swapGreed) r), depth + 1⟩ :: ps }
  | _ => none

end OpenGroup

/-- A pattern while it is read: the innermost open group, those around it, and the names given. -/
structure Draft where
  group : OpenGroup
  outer : List OpenGroup := []
  names : List Text := []

/-- The regular expression for an item outside brackets. -/
def regexOf? (f : Flags) : Item → Option Regex
  | .literal c byte =>
    (scalar? f c byte).map fun c =>
      let k := CharClass.ofChar c
      .chars (if f.unicode || c.toNat < 128 then f.fold k else k)
  | .charClass c => some (.chars c)
  | .look l => some (.look l)
  | .dot =>
    if !f.unicode then none
    else if f.dotMatchesLineEnd then some (.chars .anything)
    else if f.crlf then some (.chars (.compl (.ofChars ['\n', '\r'])))
    else some (.chars (.compl (.ofChar '\n')))

def lineStart (f : Flags) : Look := if f.multiLine then .lineStart f.crlf else .textStart

def lineEnd (f : Flags) : Look := if f.multiLine then .lineEnd f.crlf else .textEnd

def readItem (f : Flags) : Text → Read Item
  | [] => none
  | '\\' :: r => readEscape f r
  | '.' :: r => some (.dot, r)
  | '^' :: r => some (.look (lineStart f), r)
  | '$' :: r => some (.look (lineEnd f), r)
  | c :: r => some (.literal c false, r)

/-- Reads letters of flags up to `)` or `:`; `seen` are those before, `on` is lost at a hyphen, and
    `dangling` says that a hyphen stands right before. -/
def readFlags (f : Flags) (seen : Text) (on dangling : Bool) : Text → Option (Flags × Text × Text)
  | [] => none
  | c :: r =>
    if c = ')' ∨ c = ':' then if dangling then none else some (f, seen, c :: r)
    else if seen.contains c then none
    else if c = '-' then readFlags f ('-' :: seen) false true r
    else match f.set c on with
      | some f' => readFlags f' (c :: seen) on false r
      | none => none

def isNameStart (c : Char) : Bool :=
  c == '_' || (if c.toNat < 128 then c.isAlpha
    else Unicode.Property.holds (.binary "Alphabetic Alpha") c)

def isNamePart (c : Char) : Bool :=
  c == '_' || c == '.' || c == '[' || c == ']' || c.isAlphanum ||
  (128 ≤ c.toNat && (Unicode.Property.holds (.binary "Alphabetic Alpha") c ||
    Unicode.Property.holds (.category "N Number") c))

/-- The name of a group, up to `>`. -/
def readName (t : Text) : Read Text :=
  match Text.cutFirst '>' t with
  | some (c :: name, rest) =>
    if isNameStart c && name.all isNamePart then some (c :: name, rest) else none
  | _ => none

namespace Draft

def flags (d : Draft) : Flags := d.group.flags

/-- Opens a group with flags of its own. -/
def enter (d : Draft) (f : Flags) : Draft :=
  { d with group := { flags := f }, outer := d.group :: d.outer }

/-- Closes the innermost group, which becomes a part of the one around it. -/
def leave (d : Draft) : Option Draft :=
  match d.outer with
  | [] => none
  | g :: gs =>
    let (r, depth) := d.group.whole
    some { d with group := g.push r (depth + 1), outer := gs }

/-- Opens a group that has a name no other has. -/
def enterNamed (d : Draft) (t : Text) : Read Draft :=
  (readName t).bind fun (name, rest) =>
    if d.names.contains name then none
    else some ({ d.enter d.flags with names := name :: d.names }, rest)

/-- Reads on after an opening parenthesis. There is no looking ahead or behind. -/
def readGroup (d : Draft) (t : Text) : Read Draft :=
  match d.flags.skip t with
  | '?' :: '=' :: _ | '?' :: '!' :: _ => none
  | '?' :: '<' :: '=' :: _ | '?' :: '<' :: '!' :: _ => none
  | '?' :: 'P' :: '<' :: r => d.enterNamed r
  | '?' :: '<' :: r => d.enterNamed r
  | '?' :: r =>
    match readFlags d.flags [] true false r with
    | some (f, _, ':' :: rest) => some (d.enter f, rest)
    | some (f, seen, ')' :: rest) =>
      if seen.isEmpty then none
      else
        let g := { d.group with flags := f, parts := ⟨none, 0⟩ :: d.group.parts }
        some ({ d with group := g }, rest)
    | _ => none
  | r => some (d.enter d.flags, r)

/-- The counts between braces: at least so often and, unless there is no end, at most so often. -/
def readCounts (f : Flags) (t : Text) : Option (Nat × Option Nat × Text) :=
  (readDecimal f (f.skip t)).bind fun (least, rest) =>
    match rest with
    | '}' :: r => some (least, some least, r)
    | ',' :: r =>
      match f.skip r with
      | '}' :: r' => some (least, none, r')
      | r' =>
        match readDecimal f r' with
        | some (most, '}' :: u) => if least ≤ most then some (least, some most, u) else none
        | _ => none
    | _ => none

/-- Repeats the last part; a question mark after the sign turns the preference round. -/
def repeatLast (d : Draft) (rest : Text) (f : (greedy : Bool) → Regex → Regex) : Read Draft :=
  let (lazy, rest) := match rest with
    | '?' :: r => (true, r)
    | r => (false, r)
  (d.group.repeated lazy f).map fun g => ({ d with group := g }, rest)

/-- Takes up the next piece of a pattern. -/
def step (d : Draft) (t : Text) : Read Draft :=
  match t with
  | [] => none
  | '(' :: r => d.readGroup r
  | ')' :: r => d.leave.map fun d => (d, r)
  | '|' :: r => some ({ d with group := d.group.divide }, r)
  | '[' :: r =>
    (openSet d.flags r).bind fun (s, rest) =>
      (readSet d.flags s [] rest).map fun (c, depth, u) =>
        ({ d with group := d.group.push (.chars c) depth }, u)
  | '?' :: r => d.repeatLast r fun greedy => .optional greedy
  | '*' :: r => d.repeatLast r fun greedy => .star greedy
  | '+' :: r => d.repeatLast r fun greedy => .plus greedy
  | '{' :: r =>
    (readCounts d.flags r).bind fun (least, most, rest) =>
      d.repeatLast (d.flags.skip rest) fun greedy r =>
        match most with
        | some m => .counted greedy least (m - least) r
        | none => .atLeast greedy least r
  | t =>
    (readItem d.flags t).bind fun (item, rest) =>
      (regexOf? d.flags item).map fun r => ({ d with group := d.group.push r 0 }, rest)

/-- Reads a pattern to its end. -/
def finish (d : Draft) (t : Text) : Option Regex :=
  let u := d.flags.skip t
  if u.isEmpty then
    let (r, depth) := d.group.whole
    if d.outer.isEmpty && depth ≤ depthLimit && r.weight ≤ weightLimit then some r else none
  else
    match d.step u with
    | none => none
    | some (d', rest) => if _h : rest.length < t.length then finish d' rest else none
termination_by t.length
decreasing_by exact _h

end Draft

/-- The regular expression that a pattern stands for, if it is one. -/
def parse (f : Flags) (t : Text) : Option Regex := Draft.finish { group := { flags := f } } t

end Recipients.Pattern
