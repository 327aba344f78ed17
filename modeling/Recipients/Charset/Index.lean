import Recipients.Charset.Utf8

/-
  Indexes: rows of characters that a charset counts through. The replacement character U+FFFD
  stands in a row where there is no character. `decodeBy` and `encodeBy` read and write texts
  character by character.
-/

namespace Recipients.Charset

structure Index where
  width : Nat
  rows : List Text

namespace Index

def hole : Char := Char.ofNat 0xFFFD

def ofRows (width : Nat) (rows : List String) : Index := ⟨width, rows.map String.toList⟩

/-- The character at a place, counted from 0. -/
def char? (ix : Index) (place : Nat) : Option Char :=
  ((ix.rows[place / ix.width]?).bind fun row => row[place % ix.width]?).filter (· != hole)

/-- The places of a character in a row that begins at `start`. -/
def placesInRow (c : Char) (start : Nat) : Text → List Nat
  | [] => []
  | d :: row =>
    if d = c then start :: placesInRow c (start + 1) row else placesInRow c (start + 1) row

def placesFrom (width : Nat) (c : Char) (start : Nat) : List Text → List Nat
  | [] => []
  | row :: rows =>
    let later := placesFrom width c (start + width) rows
    if row.contains c then placesInRow c start row ++ later else later

/-- All places of a character, in order. -/
def places (ix : Index) (c : Char) : List Nat :=
  if c = hole then [] else placesFrom ix.width c 0 ix.rows

end Index

/-- Reads bytes with `next`, which gives the characters for a byte and those after it, and what is
    left of them. -/
def decodeBy (next : UInt8 → Bytes → Option (Text × Bytes)) (bs : Bytes) : Option Text :=
  match bs with
  | [] => some []
  | b :: r =>
    match next b r with
    | none => none
    | some (t, rest) =>
      if _h : rest.length ≤ r.length then (decodeBy next rest).map (t ++ ·) else none
termination_by bs.length
decreasing_by exact Nat.lt_succ_of_le _h

/-- Writes each character by itself; one that cannot be written spoils the text. -/
def encodeBy (write : Char → Option Bytes) (t : Text) : Option Bytes :=
  (t.mapM write).map List.flatten

/-- Bytes below 128 are ASCII, the others are looked up. -/
def decodeUpper (ix : Index) (bs : Bytes) : Option Text :=
  bs.mapM fun b => if b < 128 then some (Char.ofNat b.toNat) else ix.char? (b.toNat - 128)

def encodeUpper (ix : Index) (t : Text) : Option Bytes :=
  t.mapM fun c =>
    if c.toNat < 128 then some c.toNat.toUInt8
    else (ix.places c).head?.map fun p => (p + 128).toUInt8

end Recipients.Charset
