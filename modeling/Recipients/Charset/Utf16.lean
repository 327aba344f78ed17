import Recipients.Charset.Utf8

/-
  UTF-16 as it is read. Text is never written in it: where a file is kept in UTF-16, what is
  written is UTF-8.
-/

namespace Recipients.Charset.Utf16

/-- The character of two surrogates. -/
def joinSurrogates (high low : Nat) : Char :=
  Char.ofNat (0x10000 + (high - 0xD800) * 0x400 + (low - 0xDC00))

def isHigh (n : Nat) : Bool := 0xD800 ≤ n && n < 0xDC00

def isLow (n : Nat) : Bool := 0xDC00 ≤ n && n < 0xE000

/-- The text of code units; surrogates have to come in pairs. -/
def ofUnits : List Nat → Option Text
  | [] => some []
  | n :: r =>
    if isLow n then none
    else if isHigh n then
      match r with
      | [] => none
      | m :: r' => if isLow m then (ofUnits r').map (joinSurrogates n m :: ·) else none
    else (ofUnits r).map (Char.ofNat n :: ·)

/-- Pairs of bytes as code units; `none` if a byte is left over. -/
def units (bigEndian : Bool) : Bytes → Option (List Nat)
  | [] => some []
  | [_] => none
  | a :: b :: r =>
    let unit := if bigEndian then a.toNat * 256 + b.toNat else b.toNat * 256 + a.toNat
    (units bigEndian r).map (unit :: ·)

def decode (bigEndian : Bool) (bs : Bytes) : Option Text := (units bigEndian bs).bind ofUnits

end Recipients.Charset.Utf16
