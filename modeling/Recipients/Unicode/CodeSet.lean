import Recipients.Text

/-
  Sets and maps of code points, and the notation in which the tables of this folder are kept:
  hexadecimal code points and ranges of them, with blanks between. A map entry is written
  `first-last=target`, the target moving along with the range; `first/last=target` does the same
  for every second code point; `code=a,b` maps one code point to several.
-/

namespace Recipients.Unicode

/-- A set of code points, as ranges with both ends included. -/
structure CodeSet where
  ranges : List (Nat × Nat)
  deriving DecidableEq

namespace CodeSet

def contains (s : CodeSet) (c : Char) : Bool :=
  s.ranges.any fun r => r.1 ≤ c.toNat && c.toNat ≤ r.2

def union (s t : CodeSet) : CodeSet := ⟨s.ranges ++ t.ranges⟩

end CodeSet

/-- One line of a map: every `step`-th code point from `first` to `last`, and its image. -/
structure Mapping where
  first : Nat
  last : Nat
  step : Nat
  target : List Nat
  deriving DecidableEq

namespace Mapping

def applies (m : Mapping) (n : Nat) : Bool :=
  m.first ≤ n && n ≤ m.last && (n - m.first) % m.step == 0

/-- The image of `n`; a single target moves along with the range. -/
def image (m : Mapping) (n : Nat) : List Char :=
  match m.target with
  | [t] => [Char.ofNat (t + (n - m.first))]
  | ts => ts.map Char.ofNat

end Mapping

/-- The image of a character under the first line that applies to it. -/
def mapped? (ms : List Mapping) (c : Char) : Option (List Char) :=
  (ms.find? fun m => m.applies c.toNat).map fun m => m.image c.toNat

/-- A table while it is read: the lines so far, the last one first, and what has been read of the
    current one. -/
structure Reading where
  done : List Mapping := []
  first : Option Nat := none
  last : Option Nat := none
  step : Nat := 1
  target : List Nat := []
  mapping : Bool := false
  number : Option Nat := none

def hexDigit? (c : Char) : Option Nat :=
  if c.isDigit then some (c.toNat - 0x30)
  else if 'A' ≤ c ∧ c ≤ 'F' then some (c.toNat - 0x37)
  else none

namespace Reading

/-- Puts the number just read where it belongs. -/
def settle (r : Reading) : Reading :=
  match r.number with
  | none => r
  | some n =>
    if r.mapping then { r with target := r.target ++ [n], number := none }
    else if r.first.isNone then { r with first := some n, number := none }
    else { r with last := some n, number := none }

/-- Closes the current line. -/
def close (r : Reading) : Reading :=
  let s := r.settle
  match s.first with
  | none => { done := s.done }
  | some a => { done := ⟨a, s.last.getD a, s.step, s.target⟩ :: s.done }

def take (r : Reading) (c : Char) : Reading :=
  match hexDigit? c with
  | some d => { r with number := some (r.number.getD 0 * 16 + d) }
  | none =>
    if c = '-' then r.settle
    else if c = '/' then { r.settle with step := 2 }
    else if c = '=' then { r.settle with mapping := true }
    else if c = ',' then r.settle
    else r.close

end Reading

def readTable (t : String) : List Mapping :=
  ((t.toList.foldl Reading.take {}).close).done.reverse

/-- Reads a set in the notation of this folder. -/
def CodeSet.ofTable (t : String) : CodeSet :=
  ⟨(readTable t).map fun m => (m.first, m.last)⟩

end Recipients.Unicode
