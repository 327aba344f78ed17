import Recipients.Charset.Index.KsX1001

/-
  EUC-KR with all Hangul syllables.
-/

namespace Recipients.Charset.EucKr

def next (a : UInt8) : Bytes → Option (Text × Bytes)
  | r =>
    if a < 0x80 then some ([Char.ofNat a.toNat], r)
    else if 0x81 ≤ a ∧ a ≤ 0xFE then
      match r with
      | [] => none
      | b :: r' =>
        if 0x41 ≤ b ∧ b ≤ 0xFE then
          (Index.ksX1001.char? ((a.toNat - 0x81) * 190 + (b.toNat - 0x41))).map fun c => ([c], r')
        else none
    else none

def decode (bs : Bytes) : Option Text := decodeBy next bs

def write (c : Char) : Option Bytes :=
  if c.toNat < 0x80 then some [c.toNat.toUInt8]
  else (Index.ksX1001.places c).head?.map fun p =>
    [(p / 190 + 0x81).toUInt8, (p % 190 + 0x41).toUInt8]

def encode (t : Text) : Option Bytes := encodeBy write t

end Recipients.Charset.EucKr
