import Recipients.Text
import Recipients.Unicode.Normalization.Tables

/-
  Canonical composition (normalization form C): decompose, put marks in canonical order, compose.
  A mark moves past the marks of smaller class after it; a starter takes up a following mark unless
  a mark of the same class stands between them.
-/

namespace Recipients.Unicode

/-- Canonical combining class; no character below the combining marks has one. -/
def combiningClass (c : Char) : Nat :=
  if c.toNat < 0x300 then 0
  else match combiningClasses.find? fun e => e.2.contains c with
    | some e => e.1
    | none => 0

/-- A Hangul syllable is a leading consonant, a vowel and perhaps a trailing consonant, counted
    through in this order. -/
def decomposeHangul (index : Nat) : Text :=
  let lead := Char.ofNat (0x1100 + index / 588)
  let vowel := Char.ofNat (0x1161 + index % 588 / 28)
  if index % 28 = 0 then [lead, vowel] else [lead, vowel, Char.ofNat (0x11A7 + index % 28)]

def decompose (c : Char) : Text :=
  let n := c.toNat
  if n < 0xC0 then [c]
  else if 0xAC00 ≤ n ∧ n < 0xAC00 + 11172 then decomposeHangul (n - 0xAC00)
  else (mapped? decompositions c).getD [c]

/-- Puts a character in front of text in canonical order. -/
def placeMark (c : Char) : Text → Text
  | [] => [c]
  | d :: r =>
    if combiningClass d ≠ 0 ∧ combiningClass d < combiningClass c then d :: placeMark c r
    else c :: d :: r

def reorder (t : Text) : Text := t.foldr placeMark []

def composeHangul? (c d : Char) : Option Char :=
  let m := c.toNat
  let n := d.toNat
  if 0x1100 ≤ m ∧ m < 0x1113 ∧ 0x1161 ≤ n ∧ n < 0x1176 then
    some (Char.ofNat (0xAC00 + (m - 0x1100) * 588 + (n - 0x1161) * 28))
  else if 0xAC00 ≤ m ∧ m < 0xAC00 + 11172 ∧ (m - 0xAC00) % 28 = 0 ∧ 0x11A7 < n ∧ n < 0x11C3 then
    some (Char.ofNat (m + (n - 0x11A7)))
  else none

/-- The composite of two characters, if there is one. -/
def compose? (c d : Char) : Option Char :=
  if d.toNat < 0x300 then none
  else (composeHangul? c d).or <|
    (compositions.find? fun m => m.target == [c.toNat, d.toNat]).map fun m => Char.ofNat m.first

/-- Composes after `starter`, which the marks `skipped` follow uncomposed. -/
def composeFrom (starter : Char) (skipped : Text) : Text → Text
  | [] => starter :: skipped
  | c :: r =>
    let blocked := skipped.getLast?.any fun d => combiningClass c ≤ combiningClass d
    match if blocked then none else compose? starter c with
    | some composite => composeFrom composite skipped r
    | none =>
      if combiningClass c = 0 then starter :: skipped ++ composeFrom c [] r
      else composeFrom starter (skipped ++ [c]) r

def compose : Text → Text
  | [] => []
  | c :: r => if combiningClass c = 0 then composeFrom c [] r else c :: compose r

/-- The composed form in which canonically equivalent texts are equal. -/
def normalize (t : Text) : Text := compose (reorder (t.flatMap decompose))

end Recipients.Unicode
