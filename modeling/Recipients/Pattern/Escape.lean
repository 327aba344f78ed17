import Recipients.Pattern.Flags
import Recipients.Pattern.Regex

/-
  Escapes: characters by number, classes by letter or by property, and looks, each after a
  backslash.
-/

namespace Recipients.Pattern

def hexDigit? (c : Char) : Option Nat :=
  if c.isDigit then some (c.toNat - 0x30)
  else if 'a' ≤ c ∧ c ≤ 'f' then some (c.toNat - 0x57)
  else if 'A' ≤ c ∧ c ≤ 'F' then some (c.toNat - 0x37)
  else none

def charOfCode? (n : Nat) : Option Char :=
  if h : n.isValidChar then some (Char.ofNatAux n h) else none

/-- Exactly `count` hexadecimal digits. -/
def readHexDigits (f : Flags) : (count : Nat) → (value : Nat) → Text → Read Nat
  | 0, value, t => some (value, t)
  | _ + 1, _, [] => none
  | count + 1, value, c :: r =>
    match hexDigit? c with
    | some d => readHexDigits f count (value * 16 + d) (f.skip r)
    | none => none

/-- Hexadecimal digits up to a closing brace. -/
def readHexBraced (f : Flags) (value : Option Nat) (t : Text) : Read Nat :=
  match t with
  | [] => none
  | c :: r =>
    if c = '}' then value.map fun n => (n, f.skip r)
    else match hexDigit? c with
      | none => none
      | some d =>
        let rest := f.skip r
        if _h : rest.length ≤ r.length then readHexBraced f (some (value.getD 0 * 16 + d)) rest
        else none
termination_by t.length
decreasing_by exact Nat.lt_succ_of_le _h

/-- The digits that begin a text, as a number. -/
def readDigits (f : Flags) (value : Option Nat) (t : Text) : Option Nat × Text :=
  match t with
  | [] => (value, [])
  | c :: r =>
    if c.isDigit then
      let rest := f.skip r
      if _h : rest.length ≤ r.length then
        readDigits f (some (value.getD 0 * 10 + (c.toNat - 0x30))) rest
      else (value, t)
    else (value, t)
termination_by t.length
decreasing_by exact Nat.lt_succ_of_le _h

/-- A number of 32 bits with blanks around it. -/
def readDecimal (f : Flags) (t : Text) : Read Nat :=
  let (value, rest) := readDigits f none (t.dropWhile Text.isBlank)
  let rest := match rest with
    | c :: _ => if Text.isBlank c then f.skip (rest.dropWhile Text.isBlank) else rest
    | [] => []
  (value.filter fun n => n < UInt32.size).map fun n => (n, rest)

/-- What one item of a pattern stands for; `byte` marks a character written as two hexadecimal
    digits. -/
inductive Item where
  | literal (c : Char) (byte : Bool)
  | charClass (c : CharClass)
  | look (l : Look)
  | dot

/-- Characters that stand for themselves after a backslash. -/
def isEscapable (c : Char) : Bool :=
  c.toNat < 128 && !c.isAlphanum && c != '<' && c != '>'

def readHex (f : Flags) (kind : Char) (t : Text) : Read Item :=
  match f.skip t with
  | '{' :: r =>
    (readHexBraced f none (f.skip r)).bind fun (n, rest) =>
      (charOfCode? n).map fun c => (.literal c false, rest)
  | r =>
    let count := if kind = 'x' then 2 else if kind = 'u' then 4 else 8
    (readHexDigits f count 0 r).bind fun (n, rest) =>
      (charOfCode? n).map fun c => (.literal c (kind == 'x'), rest)

/-- What stands before and after the first `mark` of two characters. -/
def cutMark (a b : Char) : Text → Option (Text × Text)
  | c :: d :: r =>
    if c = a ∧ d = b then some ([], r)
    else (cutMark a b (d :: r)).map fun p => (c :: p.1, p.2)
  | _ => none

/-- A property by its name, or by the name and value of another property. An exclamation mark
    before the equals sign makes no difference. -/
def namedProperty? (t : Text) : Option Unicode.Property :=
  match ((cutMark '!' '=' t).or (Text.cutFirst ':' t)).or (Text.cutFirst '=' t) with
  | some (name, value) => Unicode.Property.ofValue? name value
  | none => Unicode.Property.ofName? t

/-- Text up to a closing brace. -/
def readBraced (f : Flags) (t : Text) : Read Text :=
  match t with
  | [] => none
  | c :: r =>
    if c = '}' then some ([], r)
    else
      let rest := f.skip r
      if _h : rest.length ≤ r.length then (readBraced f rest).map fun (s, u) => (c :: s, u)
      else none
termination_by t.length
decreasing_by exact Nat.lt_succ_of_le _h

def readProperty (f : Flags) (negated : Bool) (t : Text) : Read Item :=
  let named : Read Text := match f.skip t with
    | [] => none
    | '{' :: r => readBraced f (f.skip r)
    | '\\' :: _ => none
    | c :: r => some ([c], r)
  if !f.unicode then none
  else named.bind fun (name, rest) => (namedProperty? name).bind fun p =>
    (f.negate negated (f.fold (.property p))).map fun c => (.charClass c, rest)

/-- ASCII letters, digits and the low line. -/
def asciiWord : CharClass :=
  .union (.union (.range 0x30 0x39) (.range 0x41 0x5A)) (.union (.ofChar '_') (.range 0x61 0x7A))

def asciiBlank : CharClass := .union (.range 9 13) (.ofChar ' ')

/-- The class of a letter after a backslash; a capital negates it. -/
def shorthand? (f : Flags) (letter : Char) : Option CharClass :=
  let base : Option CharClass :=
    match letter.toLower with
    | 'd' => some (if f.unicode then .digit else .range 0x30 0x39)
    | 's' => some (if f.unicode then .blank else asciiBlank)
    | 'w' => some (if f.unicode then .word else asciiWord)
    | _ => none
  base.bind (f.negate letter.isUpper)

/-- The name in the braces after a word boundary. -/
def readBoundaryName (f : Flags) (t : Text) : Text × Text :=
  match t with
  | [] => ([], [])
  | c :: r =>
    if c.isAlpha || c == '-' then
      let rest := f.skip r
      if _h : rest.length ≤ r.length then
        let (name, u) := readBoundaryName f rest
        (c :: name, u)
      else ([], t)
    else ([], t)
termination_by t.length
decreasing_by exact Nat.lt_succ_of_le _h

/-- A word boundary, perhaps one of a special kind. Braces that cannot hold a name are left for a
    repetition. -/
def readBoundary (f : Flags) (t : Text) : Read Item :=
  let ascii := !f.unicode
  match t with
  | '{' :: r =>
    match f.skip r with
    | [] => none
    | c :: r' =>
      if c.isAlpha || c == '-' then
        match readBoundaryName f (c :: r') with
        | (name, '}' :: rest) =>
          if name == "start".toList then some (.look (.wordStart ascii), rest)
          else if name == "end".toList then some (.look (.wordEnd ascii), rest)
          else if name == "start-half".toList then some (.look (.wordStartHalf ascii), rest)
          else if name == "end-half".toList then some (.look (.wordEndHalf ascii), rest)
          else none
        | _ => none
      else some (.look (.wordBoundary ascii), t)
  | _ => some (.look (.wordBoundary ascii), t)

/-- Reads on after a backslash. -/
def readEscape (f : Flags) : Text → Read Item
  | [] => none
  | c :: r =>
    let ascii := !f.unicode
    let code (n : Nat) : Read Item := some (.literal (Char.ofNat n) false, r)
    match c with
    | 'x' | 'u' | 'U' => readHex f c r
    | 'p' => readProperty f false r
    | 'P' => readProperty f true r
    | 'a' => code 7
    | 'f' => code 12
    | 't' => code 9
    | 'n' => code 10
    | 'r' => code 13
    | 'v' => code 11
    | 'A' => some (.look .textStart, r)
    | 'z' => some (.look .textEnd, r)
    | 'b' => readBoundary f r
    | 'B' => some (.look (.noWordBoundary ascii), r)
    | '<' => some (.look (.wordStart ascii), r)
    | '>' => some (.look (.wordEnd ascii), r)
    | c =>
      match shorthand? f c with
      | some k => some (.charClass k, r)
      | none => if isEscapable c then some (.literal c false, r) else none

/-- A literal as far as it is text: without Unicode, two digits cannot stand for part of a longer
    character. -/
def scalar? (f : Flags) (c : Char) (byte : Bool) : Option Char :=
  if !f.unicode && byte && 128 ≤ c.toNat then none else some c

end Recipients.Pattern
