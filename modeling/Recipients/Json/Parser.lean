import Recipients.Json

/-
  Reading JSON (RFC 8259). Every reader yields what it has read and what follows it.
-/

namespace Recipients
namespace Json

/-- The blanks between tokens. -/
def isBlank (c : Char) : Bool := c == ' ' || c == '\t' || c == '\n' || c == '\r'

def skip (s : Text) : Text := s.dropWhile isBlank

theorem skip_length_le (s : Text) : (skip s).length ≤ s.length :=
  (List.dropWhile_suffix _).length_le

def hexDigit? (c : Char) : Option Nat :=
  if '0' ≤ c ∧ c ≤ '9' then some (c.toNat - '0'.toNat)
  else if 'a' ≤ c ∧ c ≤ 'f' then some (c.toNat - 'a'.toNat + 10)
  else if 'A' ≤ c ∧ c ≤ 'F' then some (c.toNat - 'A'.toNat + 10)
  else none

/-- The number that four hexadecimal digits write. -/
def hexUnit? (a b c d : Char) : Option Nat :=
  [a, b, c, d].foldlM (fun n x => (hexDigit? x).map (n * 16 + ·)) 0

def isHighHalf (n : Nat) : Bool := 0xD800 ≤ n && n ≤ 0xDBFF

def isLowHalf (n : Nat) : Bool := 0xDC00 ≤ n && n ≤ 0xDFFF

/-- The character of a unit that is no half of a pair. -/
def unitChar (n : Nat) : Option Char :=
  if isHighHalf n || isLowHalf n then none else some (Char.ofNat n)

/-- The character of a pair. -/
def pairChar (high low : Nat) : Char :=
  Char.ofNat (0x10000 + (high - 0xD800) * 0x400 + (low - 0xDC00))

/-- What a letter stands for after a backslash. -/
def escaped? (c : Char) : Option Char :=
  if c = '"' ∨ c = '\\' ∨ c = '/' then some c
  else if c = 'b' then some (Char.ofNat 8)
  else if c = 'f' then some (Char.ofNat 12)
  else if c = 'n' then some '\n'
  else if c = 'r' then some '\r'
  else if c = 't' then some '\t'
  else none

/-- Puts a unit in front of a string; a high half right before an escaped low half makes a
    character with it. -/
def pair (unit : Nat) (rest : List (Option Char)) (low : Option Nat) : List (Option Char) :=
  match low, rest with
  | some l, _ :: more =>
    if isHighHalf unit && isLowHalf l then some (pairChar unit l) :: more
    else unitChar unit :: rest
  | _, _ => unitChar unit :: rest

/-- The unit that an escape at the front of the text writes in hexadecimal. -/
def unitAhead? : Text → Option Nat
  | '\\' :: 'u' :: a :: b :: c :: d :: _ => hexUnit? a b c d
  | _ => none

/-- The rest of a string. -/
def readString : Text → Option (List (Option Char) × Text)
  | [] => none
  | '"' :: r => some ([], r)
  | '\\' :: 'u' :: a :: b :: c :: d :: r => do
    let unit ← hexUnit? a b c d
    let (units, rest) ← readString r
    return (pair unit units (unitAhead? r), rest)
  | '\\' :: c :: r => do
    let e ← escaped? c
    let (units, rest) ← readString r
    return (some e :: units, rest)
  | c :: r => do
    if c.toNat < 0x20 || c == '\\' then none
    let (units, rest) ← readString r
    return (some c :: units, rest)

/-- What follows a word that is due. -/
def expect (word : String) (s : Text) : Option Text := Text.afterPrefix? word.toList s

def digits (s : Text) : Text := s.takeWhile Char.isDigit

def afterDigits (s : Text) : Text := s.dropWhile Char.isDigit

/-- One digit or more. -/
def skipDigits (s : Text) : Option Text :=
  if (digits s).isEmpty then none else some (afterDigits s)

/-- A fraction, if there is one. -/
def skipFraction : Text → Option Text
  | '.' :: r => skipDigits r
  | s => some s

/-- An exponent, if there is one. -/
def skipExponent : Text → Option Text
  | c :: r =>
    if c = 'e' ∨ c = 'E' then
      match r with
      | '+' :: r => skipDigits r
      | '-' :: r => skipDigits r
      | r => skipDigits r
    else some (c :: r)
  | [] => some []

def natural (ds : Text) : Nat := ds.foldl (fun n c => n * 10 + (c.toNat - '0'.toNat)) 0

/-- A number without its sign: no zero stands in front of other digits. -/
def readNumber (negative : Bool) (s : Text) : Option (Json × Text) := do
  let ds := digits s
  if ds.isEmpty || (ds.head? == some '0' && 1 < ds.length) then none
  let whole := afterDigits s
  let rest ← skipExponent (← skipFraction whole)
  let plain := !negative && rest.length == whole.length
  return (.number (if plain then some (natural ds) else none), rest)

mutual

/-- A value at the front of the text. -/
def readValue (s : Text) : Option (Json × Text) :=
  match s with
  | '[' :: r =>
    match skip r with
    | ']' :: rest => some (.array [], rest)
    | _ => (readItems (skip r)).map fun p => (.array p.1, p.2)
  | '{' :: r =>
    match skip r with
    | '}' :: rest => some (.object [], rest)
    | _ => (readMembers (skip r)).map fun p => (.object p.1, p.2)
  | '"' :: r => (readString r).map fun p => (.string p.1, p.2)
  | '-' :: r => readNumber true r
  | 'n' :: r => (expect "ull" r).map fun rest => (.null, rest)
  | 't' :: r => (expect "rue" r).map fun rest => (.bool true, rest)
  | 'f' :: r => (expect "alse" r).map fun rest => (.bool false, rest)
  | s => readNumber false s
termination_by (s.length, 0)
decreasing_by
  all_goals
    have := skip_length_le r
    exact Prod.Lex.left _ _ (Nat.lt_succ_of_le this)

/-- The items of an array from one of them on. -/
def readItems (s : Text) : Option (List Json × Text) :=
  match readValue s with
  | none => none
  | some (item, r) =>
    match skip r with
    | ']' :: rest => some ([item], rest)
    | ',' :: r =>
      if _h : (skip r).length < s.length then
        (readItems (skip r)).map fun p => (item :: p.1, p.2)
      else none
    | _ => none
termination_by (s.length, 1)
decreasing_by
  · exact Prod.Lex.right _ (by omega)
  · exact Prod.Lex.left _ _ _h

/-- The members of an object from one of them on. -/
def readMembers (s : Text) : Option (List (List (Option Char) × Json) × Text) :=
  match s with
  | '"' :: start =>
    match readString start with
    | none => none
    | some (key, r) =>
      match skip r with
      | ':' :: r =>
        if _h : (skip r).length ≤ start.length then
          match readValue (skip r) with
          | none => none
          | some (value, r) =>
            match skip r with
            | '}' :: rest => some ([(key, value)], rest)
            | ',' :: r =>
              if _h' : (skip r).length ≤ start.length then
                (readMembers (skip r)).map fun p => ((key, value) :: p.1, p.2)
              else none
            | _ => none
        else none
      | _ => none
  | _ => none
termination_by (s.length, 1)
decreasing_by
  · exact Prod.Lex.left _ _ (Nat.lt_succ_of_le _h)
  · exact Prod.Lex.left _ _ (Nat.lt_succ_of_le _h')

end

/-- The value that a text writes, with blanks around it. -/
def parse (s : Text) : Option Json :=
  match readValue (skip s) with
  | some (j, rest) => if (skip rest).isEmpty then some j else none
  | none => none

end Json
end Recipients
