import Recipients.Charset.Index.Big5
import Recipients.Charset.Index.Gb18030

/-
  GB 18030, GBK and Big5. GB 18030 writes in four bytes what it has no two bytes for; GBK reads the
  same and writes what it has two bytes for, and the euro sign in one.
-/

namespace Recipients.Charset
namespace Gb18030

/-- Where stretches of the characters in four bytes begin, and with which code point. -/
def stretches : List (Nat × Nat) := [
  (0, 0x80), (36, 0xA5), (38, 0xA9), (45, 0xB2), (50, 0xB8), (81, 0xD8), (89, 0xE2), (95, 0xEB),
  (96, 0xEE), (100, 0xF4), (103, 0xF8), (104, 0xFB), (105, 0xFD), (109, 0x102), (126, 0x114),
  (133, 0x11C), (148, 0x12C), (172, 0x145), (175, 0x149), (179, 0x14E), (208, 0x16C),
  (306, 0x1CF), (307, 0x1D1), (308, 0x1D3), (309, 0x1D5), (310, 0x1D7), (311, 0x1D9),
  (312, 0x1DB), (313, 0x1DD), (341, 0x1FA), (428, 0x252), (443, 0x262), (544, 0x2C8),
  (545, 0x2CC), (558, 0x2DA), (741, 0x3A2), (742, 0x3AA), (749, 0x3C2), (750, 0x3CA),
  (805, 0x402), (819, 0x450), (820, 0x452), (7922, 0x2011), (7924, 0x2017), (7925, 0x201A),
  (7927, 0x201E), (7934, 0x2027), (7943, 0x2031), (7944, 0x2034), (7945, 0x2036), (7950, 0x203C),
  (8062, 0x20AD), (8148, 0x2104), (8149, 0x2106), (8152, 0x210A), (8164, 0x2117), (8174, 0x2122),
  (8236, 0x216C), (8240, 0x217A), (8262, 0x2194), (8264, 0x219A), (8374, 0x2209), (8380, 0x2210),
  (8381, 0x2212), (8384, 0x2216), (8388, 0x221B), (8390, 0x2221), (8392, 0x2224), (8393, 0x2226),
  (8394, 0x222C), (8396, 0x222F), (8401, 0x2238), (8406, 0x223E), (8416, 0x2249), (8419, 0x224D),
  (8424, 0x2253), (8437, 0x2262), (8439, 0x2268), (8445, 0x2270), (8482, 0x2296), (8485, 0x229A),
  (8496, 0x22A6), (8521, 0x22C0), (8603, 0x2313), (8936, 0x246A), (8946, 0x249C), (9046, 0x254C),
  (9050, 0x2574), (9063, 0x2590), (9066, 0x2596), (9076, 0x25A2), (9092, 0x25B4), (9100, 0x25BE),
  (9108, 0x25C8), (9111, 0x25CC), (9113, 0x25D0), (9131, 0x25E6), (9162, 0x2607), (9164, 0x260A),
  (9218, 0x2641), (9219, 0x2643), (11329, 0x2E82), (11331, 0x2E85), (11334, 0x2E89),
  (11336, 0x2E8D), (11346, 0x2E98), (11361, 0x2EA8), (11363, 0x2EAB), (11366, 0x2EAF),
  (11370, 0x2EB4), (11372, 0x2EB8), (11375, 0x2EBC), (11389, 0x2ECB), (11682, 0x2FFC),
  (11686, 0x3004), (11687, 0x3018), (11692, 0x301F), (11694, 0x302A), (11714, 0x303F),
  (11716, 0x3094), (11723, 0x309F), (11725, 0x30F7), (11730, 0x30FF), (11736, 0x312A),
  (11982, 0x322A), (11989, 0x3232), (12102, 0x32A4), (12336, 0x3390), (12348, 0x339F),
  (12350, 0x33A2), (12384, 0x33C5), (12393, 0x33CF), (12395, 0x33D3), (12397, 0x33D6),
  (12510, 0x3448), (12553, 0x3474), (12851, 0x359F), (12962, 0x360F), (12973, 0x361B),
  (13738, 0x3919), (13823, 0x396F), (13919, 0x39D1), (13933, 0x39E0), (14080, 0x3A74),
  (14298, 0x3B4F), (14585, 0x3C6F), (14698, 0x3CE1), (15583, 0x4057), (15847, 0x4160),
  (16318, 0x4338), (16434, 0x43AD), (16438, 0x43B2), (16481, 0x43DE), (16729, 0x44D7),
  (17102, 0x464D), (17122, 0x4662), (17315, 0x4724), (17320, 0x472A), (17402, 0x477D),
  (17418, 0x478E), (17859, 0x4948), (17909, 0x497B), (17911, 0x497E), (17915, 0x4984),
  (17916, 0x4987), (17936, 0x499C), (17939, 0x49A0), (17961, 0x49B8), (18664, 0x4C78),
  (18703, 0x4CA4), (18814, 0x4D1A), (18962, 0x4DAF), (19043, 0x9FA6), (33469, 0xE76C),
  (33470, 0xE7C8), (33471, 0xE7E7), (33484, 0xE815), (33485, 0xE819), (33490, 0xE81F),
  (33497, 0xE827), (33501, 0xE82D), (33505, 0xE833), (33513, 0xE83C), (33520, 0xE844),
  (33536, 0xE856), (33550, 0xE865), (37845, 0xF92D), (37921, 0xF97A), (37948, 0xF996),
  (38029, 0xF9E8), (38038, 0xF9F2), (38064, 0xFA10), (38065, 0xFA12), (38066, 0xFA15),
  (38069, 0xFA19), (38075, 0xFA22), (38076, 0xFA25), (38078, 0xFA2A), (39108, 0xFE32),
  (39109, 0xFE45), (39113, 0xFE53), (39114, 0xFE58), (39115, 0xFE67), (39116, 0xFE6C),
  (39265, 0xFF5F), (39394, 0xFFE6), (189000, 0x10000)]

/-- The place among the characters in four bytes that is not in sequence. -/
def outOfSequence : Nat × Nat := (7457, 0xE7C7)

def charAt? (place : Nat) : Option Char :=
  if (39419 < place ∧ place < 189000) ∨ 1237575 < place then none
  else if place = outOfSequence.1 then some (Char.ofNat outOfSequence.2)
  else ((stretches.filter fun s => s.1 ≤ place).getLast?).map fun s =>
    Char.ofNat (s.2 + (place - s.1))

def placeOf? (c : Char) : Option Nat :=
  if c.toNat = outOfSequence.2 then some outOfSequence.1
  else ((stretches.filter fun s => s.2 ≤ c.toNat).getLast?).map fun s => s.1 + (c.toNat - s.2)

def isDigit (b : UInt8) : Bool := 0x30 ≤ b && b ≤ 0x39

def isLead (b : UInt8) : Bool := 0x81 ≤ b && b ≤ 0xFE

def four? (a b c d : UInt8) : Option Char :=
  if isDigit b && isLead c && isDigit d then
    charAt? ((((a.toNat - 0x81) * 10 + (b.toNat - 0x30)) * 126 + (c.toNat - 0x81)) * 10 +
      (d.toNat - 0x30))
  else none

def two? (a b : UInt8) : Option Char :=
  if (0x40 ≤ b ∧ b ≤ 0x7E) ∨ (0x80 ≤ b ∧ b ≤ 0xFE) then
    Index.gb18030.char? ((a.toNat - 0x81) * 190 + (b.toNat - (if b < 0x7F then 0x40 else 0x41)))
  else none

def next (a : UInt8) : Bytes → Option (Text × Bytes)
  | r =>
    if a < 0x80 then some ([Char.ofNat a.toNat], r)
    else if a = 0x80 then some ([Char.ofNat 0x20AC], r)
    else if isLead a then
      match r with
      | [] => none
      | b :: r' =>
        if isDigit b then
          match r' with
          | c :: d :: r'' => (four? a b c d).map fun x => ([x], r'')
          | _ => none
        else (two? a b).map fun x => ([x], r')
    else none

def decode (bs : Bytes) : Option Text := decodeBy next bs

/-- Private characters that are still written as in an earlier edition, whose two bytes have been
    given to other characters since. -/
def earlier : List (Nat × (UInt8 × UInt8)) := [
  (0xE78D, (0xA6, 0xD9)), (0xE78E, (0xA6, 0xDA)), (0xE78F, (0xA6, 0xDB)), (0xE790, (0xA6, 0xDC)),
  (0xE791, (0xA6, 0xDD)), (0xE792, (0xA6, 0xDE)), (0xE793, (0xA6, 0xDF)), (0xE794, (0xA6, 0xEC)),
  (0xE795, (0xA6, 0xED)), (0xE796, (0xA6, 0xF3)), (0xE81E, (0xFE, 0x59)), (0xE826, (0xFE, 0x61)),
  (0xE82B, (0xFE, 0x66)), (0xE82C, (0xFE, 0x67)), (0xE832, (0xFE, 0x6D)), (0xE843, (0xFE, 0x7E)),
  (0xE854, (0xFE, 0x90)), (0xE864, (0xFE, 0xA0))]

def writeTwo (c : Char) : Option Bytes :=
  if c.toNat = 0xE5E5 then none
  else match earlier.lookup c.toNat with
    | some (a, b) => some [a, b]
    | none =>
      (Index.gb18030.places c).head?.map fun p =>
        let trail := p % 190
        [(p / 190 + 0x81).toUInt8, (trail + (if trail < 0x3F then 0x40 else 0x41)).toUInt8]

def writeFour (c : Char) : Option Bytes :=
  if c.toNat = 0xE5E5 then none
  else (placeOf? c).map fun p =>
    [(p / 12600 + 0x81).toUInt8, (p / 1260 % 10 + 0x30).toUInt8,
      (p / 10 % 126 + 0x81).toUInt8, (p % 10 + 0x30).toUInt8]

def write (c : Char) : Option Bytes :=
  if c.toNat < 0x80 then some [c.toNat.toUInt8] else (writeTwo c).or (writeFour c)

def encode (t : Text) : Option Bytes := encodeBy write t

end Gb18030

namespace Gbk

def write (c : Char) : Option Bytes :=
  if c.toNat < 0x80 then some [c.toNat.toUInt8]
  else if c.toNat = 0x20AC then some [0x80]
  else Gb18030.writeTwo c

def decode (bs : Bytes) : Option Text := Gb18030.decode bs

def encode (t : Text) : Option Bytes := encodeBy write t

end Gbk

namespace Big5

/-- Places that stand for two characters. -/
def doubled : List (Nat × Text) :=
  [(1133, [Char.ofNat 0xCA, Char.ofNat 0x304]), (1135, [Char.ofNat 0xCA, Char.ofNat 0x30C]),
    (1164, [Char.ofNat 0xEA, Char.ofNat 0x304]), (1166, [Char.ofNat 0xEA, Char.ofNat 0x30C])]

def textAt? (place : Nat) : Option Text :=
  match doubled.lookup place with
  | some t => some t
  | none => (Index.big5.char? place).map fun c => [c]

def next (a : UInt8) : Bytes → Option (Text × Bytes)
  | r =>
    if a < 0x80 then some ([Char.ofNat a.toNat], r)
    else if 0x81 ≤ a ∧ a ≤ 0xFE then
      match r with
      | [] => none
      | b :: r' =>
        if (0x40 ≤ b ∧ b ≤ 0x7E) ∨ (0xA1 ≤ b ∧ b ≤ 0xFE) then
          (textAt? ((a.toNat - 0x81) * 157 + (b.toNat - (if b < 0x7F then 0x40 else 0x62)))).map
            fun t => (t, r')
        else none
    else none

def decode (bs : Bytes) : Option Text := decodeBy next bs

/-- Characters that are written as in the last of their places. -/
def lastPlaced : List Nat := [0x2550, 0x255E, 0x2561, 0x256A, 0x5341, 0x5345]

/-- The place as which a character is written; the supplement in front of the standard rows is only
    read. -/
def place? (c : Char) : Option Nat :=
  let ps := (Index.big5.places c).filter (5024 ≤ ·)
  if lastPlaced.contains c.toNat then ps.getLast? else ps.head?

def write (c : Char) : Option Bytes :=
  if c.toNat < 0x80 then some [c.toNat.toUInt8]
  else (place? c).map fun p =>
    let trail := p % 157
    [(p / 157 + 0x81).toUInt8, (trail + (if trail < 0x3F then 0x40 else 0x62)).toUInt8]

def encode (t : Text) : Option Bytes := encodeBy write t

end Big5
end Recipients.Charset
