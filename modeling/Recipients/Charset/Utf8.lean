import Recipients.Text

/-
  UTF-8. A character is one to four bytes: a lead byte that fixes how many follow and bytes of the
  form 10xxxxxx. Bytes that cannot be continued to a character are malformed, each longest stretch
  on its own.
-/

namespace Recipients

abbrev Bytes := List UInt8

namespace Utf8

def encodeChar (c : Char) : Bytes :=
  let n := c.toNat
  let tail (k : Nat) : UInt8 := (0x80 + n / k % 64).toUInt8
  if n < 0x80 then [n.toUInt8]
  else if n < 0x800 then [(0xC0 + n / 64).toUInt8, tail 1]
  else if n < 0x10000 then [(0xE0 + n / 4096).toUInt8, tail 64, tail 1]
  else [(0xF0 + n / 262144).toUInt8, tail 4096, tail 64, tail 1]

def encode (t : Text) : Bytes := t.flatMap encodeChar

/-- How many bytes follow a lead byte, and the bits that it holds. -/
def lead? (b : Nat) : Option (Nat × Nat) :=
  if b < 0x80 then some (0, b)
  else if 0xC2 ≤ b ∧ b ≤ 0xDF then some (1, b - 0xC0)
  else if 0xE0 ≤ b ∧ b ≤ 0xEF then some (2, b - 0xE0)
  else if 0xF0 ≤ b ∧ b ≤ 0xF4 then some (3, b - 0xF0)
  else none

/-- The second byte is restricted where the lead byte leaves room for overlong forms, surrogates
    and codes past the last one. -/
def secondRange (lead : Nat) : Nat × Nat :=
  if lead = 0xE0 then (0xA0, 0xBF)
  else if lead = 0xED then (0x80, 0x9F)
  else if lead = 0xF0 then (0x90, 0xBF)
  else if lead = 0xF4 then (0x80, 0x8F)
  else (0x80, 0xBF)

/-- Reads the bytes after a lead byte, the first of them within `range`. -/
def readTail : (count : Nat) → (range : Nat × Nat) → (code : Nat) → Bytes → Option Nat × Bytes
  | 0, _, code, bs => (some code, bs)
  | _ + 1, _, _, [] => (none, [])
  | n + 1, range, code, b :: bs =>
    if range.1 ≤ b.toNat ∧ b.toNat ≤ range.2 then
      readTail n (0x80, 0xBF) (code * 64 + (b.toNat - 0x80)) bs
    else (none, b :: bs)

theorem readTail_length_le (count : Nat) (range : Nat × Nat) (code : Nat) (bs : Bytes) :
    (readTail count range code bs).2.length ≤ bs.length := by
  induction count generalizing range code bs with
  | zero => simp [readTail]
  | succ n ih =>
    cases bs with
    | nil => simp [readTail]
    | cons b bs =>
      simp only [readTail]
      split
      · exact Nat.le_succ_of_le (ih _ _ _)
      · simp

/-- Characters, and `none` for every malformed stretch. -/
def scan : Bytes → List (Option Char)
  | [] => []
  | b :: bs =>
    match lead? b.toNat with
    | none => none :: scan bs
    | some (count, bits) =>
      let found := readTail count (secondRange b.toNat) bits bs
      found.1.map Char.ofNat :: scan found.2
termination_by bs => bs.length
decreasing_by
  · simp
  · have := readTail_length_le count (secondRange b.toNat) bits bs
    simp only [List.length_cons]
    omega

/-- The text of well-formed bytes. -/
def decode (bs : Bytes) : Option Text := (scan bs).mapM id

/-- Whether some character outside ASCII is there; malformed bytes are passed over. -/
def usesUnicode (bs : Bytes) : Bool := (scan bs).any fun c => c.any fun c => 128 ≤ c.toNat

end Utf8
end Recipients
