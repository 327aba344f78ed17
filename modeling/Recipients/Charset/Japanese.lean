import Recipients.Charset.Index.Jis0208
import Recipients.Charset.Index.Jis0212

/-
  Shift_JIS, EUC-JP and ISO-2022-JP. All write the characters of JIS X 0208 and the narrow
  katakana; the yen sign and the overline share bytes with the backslash and the tilde, and the
  minus sign is written as the wide hyphen.
-/

namespace Recipients.Charset

def ascii (b : UInt8) : Char := Char.ofNat b.toNat

/-- The narrow katakana, counted from 0. -/
def katakana (n : Nat) : Char := Char.ofNat (0xFF61 + n)

def isKatakana (c : Char) : Bool := 0xFF61 ≤ c.toNat && c.toNat ≤ 0xFF9F

def yen : Char := Char.ofNat 0xA5

def overline : Char := Char.ofNat 0x203E

/-- The character written for `c`. -/
def widened (c : Char) : Char := if c.toNat = 0x2212 then Char.ofNat 0xFF0D else c

/-- The byte that `c` shares with an ASCII character. -/
def sharedByte? (c : Char) : Option UInt8 :=
  if c.toNat < 0x80 then some c.toNat.toUInt8
  else if c = yen then some 0x5C
  else if c = overline then some 0x7E
  else none

/-- The place of a character in JIS X 0208. -/
def jisPlace? (c : Char) : Option Nat := (Index.jis0208.places (widened c)).head?

namespace ShiftJis

/-- Rows for characters of one's own. -/
def private? (place : Nat) : Option Char :=
  if 8836 ≤ place ∧ place ≤ 10715 then some (Char.ofNat (0xE000 + (place - 8836))) else none

def pair? (a b : Nat) : Option Char :=
  let leads := (0x81 ≤ a && a ≤ 0x9F) || (0xE0 ≤ a && a ≤ 0xFC)
  let trails := (0x40 ≤ b && b ≤ 0x7E) || (0x80 ≤ b && b ≤ 0xFC)
  if leads && trails then
    let place :=
      (a - (if a < 0xA0 then 0x81 else 0xC1)) * 188 + (b - (if b < 0x7F then 0x40 else 0x41))
    (private? place).or (Index.jis0208.char? place)
  else none

def next (a : UInt8) : Bytes → Option (Text × Bytes)
  | r =>
    if a ≤ 0x80 then some ([ascii a], r)
    else if 0xA1 ≤ a ∧ a ≤ 0xDF then some ([katakana (a.toNat - 0xA1)], r)
    else match r with
      | [] => none
      | b :: r' => (pair? a.toNat b.toNat).map fun c => ([c], r')

def decode (bs : Bytes) : Option Text := decodeBy next bs

/-- Characters that stand in two places are written as in the later one. -/
def place? (c : Char) : Option Nat :=
  ((Index.jis0208.places (widened c)).filter fun p => p < 8272 || 8835 < p).head?

def write (c : Char) : Option Bytes :=
  if c.toNat = 0x80 then some [0x80]
  else match sharedByte? c with
    | some b => some [b]
    | none =>
      if isKatakana c then some [(c.toNat - 0xFF61 + 0xA1).toUInt8]
      else (place? c).map fun p =>
        let lead := p / 188
        let trail := p % 188
        [(lead + (if lead < 0x1F then 0x81 else 0xC1)).toUInt8,
          (trail + (if trail < 0x3F then 0x40 else 0x41)).toUInt8]

def encode (t : Text) : Option Bytes := encodeBy write t

end ShiftJis

namespace EucJp

def inRange (b : UInt8) : Bool := 0xA1 ≤ b && b ≤ 0xFE

def place (a b : UInt8) : Nat := (a.toNat - 0xA1) * 94 + (b.toNat - 0xA1)

def next (a : UInt8) : Bytes → Option (Text × Bytes)
  | r =>
    if a < 0x80 then some ([ascii a], r)
    else match r with
      | [] => none
      | b :: r' =>
        if a = 0x8E then
          if 0xA1 ≤ b ∧ b ≤ 0xDF then some ([katakana (b.toNat - 0xA1)], r') else none
        else if a = 0x8F then
          match r' with
          | [] => none
          | c :: r'' =>
            if inRange b && inRange c then (Index.jis0212.char? (place b c)).map fun d => ([d], r'')
            else none
        else if inRange a && inRange b then (Index.jis0208.char? (place a b)).map fun c => ([c], r')
        else none

def decode (bs : Bytes) : Option Text := decodeBy next bs

def write (c : Char) : Option Bytes :=
  match sharedByte? c with
  | some b => some [b]
  | none =>
    if isKatakana c then some [0x8E, (c.toNat - 0xFF61 + 0xA1).toUInt8]
    else ((jisPlace? c).filter (· < 8836)).map fun p =>
      [(p / 94 + 0xA1).toUInt8, (p % 94 + 0xA1).toUInt8]

def encode (t : Text) : Option Bytes := encodeBy write t

end EucJp

/-! ISO-2022-JP switches between sets of characters by escape sequences. -/
namespace Iso2022Jp

inductive Mode where
  | ascii
  | roman
  | katakana
  | kanji
  deriving DecidableEq, Repr

/-- The set that an escape sequence switches to, given its bytes after the escape. -/
def mode? (a b : UInt8) : Option Mode :=
  if a = 0x28 ∧ b = 0x42 then some .ascii
  else if a = 0x28 ∧ b = 0x4A then some .roman
  else if a = 0x28 ∧ b = 0x49 then some .katakana
  else if a = 0x24 ∧ (b = 0x40 ∨ b = 0x42) then some .kanji
  else none

/-- A single byte in a set other than kanji. -/
def single? (m : Mode) (b : UInt8) : Option Char :=
  match m with
  | .ascii => if b < 0x80 ∧ b ≠ 0x0E ∧ b ≠ 0x0F then some (Charset.ascii b) else none
  | .roman =>
    if b = 0x5C then some yen
    else if b = 0x7E then some overline
    else if b < 0x80 ∧ b ≠ 0x0E ∧ b ≠ 0x0F then some (Charset.ascii b)
    else none
  | .katakana =>
    if 0x21 ≤ b ∧ b ≤ 0x5F then some (Charset.katakana (b.toNat - 0x21)) else none
  | .kanji => none

def inRange (b : UInt8) : Bool := 0x21 ≤ b && b ≤ 0x7E

/-- Reads on in a set; two escape sequences need a character between them, and `switched` says
    that there was none since the last one. -/
def decodeIn (m : Mode) (switched : Bool) : Bytes → Option Text
  | [] => some []
  | 0x1B :: a :: b :: r =>
    match mode? a b with
    | some m' => if switched then none else decodeIn m' true r
    | none => none
  | b :: r =>
    if b = 0x1B then none
    else if m = .kanji then
      match r with
      | [] => none
      | c :: r' =>
        if inRange b && inRange c then
          match Index.jis0208.char? ((b.toNat - 0x21) * 94 + (c.toNat - 0x21)) with
          | some d => (decodeIn m false r').map (d :: ·)
          | none => none
        else none
    else match single? m b with
      | some d => (decodeIn m false r).map (d :: ·)
      | none => none

def decode (bs : Bytes) : Option Text := decodeIn .ascii false bs

/-- The wide katakana in the order of the narrow ones. -/
def wideKatakana : Text :=
  "。「」、・ヲァィゥェォャュョッーアイウエオカキクケコサシスセソタチツテトナニヌネノハヒフヘホマミムメモヤユヨラリルレロワン゛゜".toList

/-- The escape sequence that switches to a set. -/
def switchTo : Mode → Bytes
  | .ascii => [0x1B, 0x28, 0x42]
  | .roman => [0x1B, 0x28, 0x4A]
  | .katakana => [0x1B, 0x28, 0x49]
  | .kanji => [0x1B, 0x24, 0x42]

/-- The set in which a character is written while `m` is current, and its bytes there. -/
def write (m : Mode) (c : Char) : Option (Mode × Bytes) :=
  let n := c.toNat
  if n = 0x0E ∨ n = 0x0F ∨ n = 0x1B then none
  else if n < 0x80 then
    if m = .roman ∧ n ≠ 0x5C ∧ n ≠ 0x7E then some (.roman, [n.toUInt8])
    else some (.ascii, [n.toUInt8])
  else match sharedByte? c with
    | some b => some (.roman, [b])
    | none =>
      let wide := if isKatakana c then (wideKatakana[n - 0xFF61]?).getD c else c
      ((jisPlace? wide).filter (· < 8836)).map fun p =>
        (.kanji, [(p / 94 + 0x21).toUInt8, (p % 94 + 0x21).toUInt8])

/-- The text ends in ASCII. -/
def encodeFrom (m : Mode) : Text → Option Bytes
  | [] => some (if m = .ascii then [] else switchTo .ascii)
  | c :: r =>
    match write m c with
    | none => none
    | some (m', bs) =>
      (encodeFrom m' r).map fun rest => (if m' = m then [] else switchTo m') ++ bs ++ rest

def encode (t : Text) : Option Bytes := encodeFrom .ascii t

end Iso2022Jp
end Recipients.Charset
