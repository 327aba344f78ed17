import Recipients.Charset.Chinese
import Recipients.Charset.Japanese
import Recipients.Charset.Korean
import Recipients.Charset.SingleByte
import Recipients.Charset.Utf16

/-
  Charsets with their names and labels (WHATWG Encoding). Conversion is strict: bytes that are not
  well formed have no text, and a text with a character outside the charset has no bytes.
-/

namespace Recipients

inductive Charset where
  | utf8
  | ibm866
  | iso2
  | iso3
  | iso4
  | iso5
  | iso6
  | iso7
  | iso8
  | iso8i
  | iso10
  | iso13
  | iso14
  | iso15
  | iso16
  | koi8r
  | koi8u
  | macintosh
  | windows874
  | windows1250
  | windows1251
  | windows1252
  | windows1253
  | windows1254
  | windows1255
  | windows1256
  | windows1257
  | windows1258
  | macCyrillic
  | gbk
  | gb18030
  | big5
  | eucJp
  | iso2022Jp
  | shiftJis
  | eucKr
  | replacement
  | utf16be
  | utf16le
  | userDefined
  deriving DecidableEq, Repr

namespace Charset

/-- Every charset with its name and its labels. -/
def table : List (Charset × String × List String) := [
  (.utf8, "UTF-8", ["unicode-1-1-utf-8", "unicode11utf8", "unicode20utf8", "utf-8", "utf8",
    "x-unicode20utf8"]),
  (.ibm866, "IBM866", ["866", "cp866", "csibm866", "ibm866"]),
  (.iso2, "ISO-8859-2", ["csisolatin2", "iso-8859-2", "iso-ir-101", "iso8859-2", "iso88592",
    "iso_8859-2", "iso_8859-2:1987", "l2", "latin2"]),
  (.iso3, "ISO-8859-3", ["csisolatin3", "iso-8859-3", "iso-ir-109", "iso8859-3", "iso88593",
    "iso_8859-3", "iso_8859-3:1988", "l3", "latin3"]),
  (.iso4, "ISO-8859-4", ["csisolatin4", "iso-8859-4", "iso-ir-110", "iso8859-4", "iso88594",
    "iso_8859-4", "iso_8859-4:1988", "l4", "latin4"]),
  (.iso5, "ISO-8859-5", ["csisolatincyrillic", "cyrillic", "iso-8859-5", "iso-ir-144", "iso8859-5",
    "iso88595", "iso_8859-5", "iso_8859-5:1988"]),
  (.iso6, "ISO-8859-6", ["arabic", "asmo-708", "csiso88596e", "csiso88596i", "csisolatinarabic",
    "ecma-114", "iso-8859-6", "iso-8859-6-e", "iso-8859-6-i", "iso-ir-127", "iso8859-6",
    "iso88596", "iso_8859-6", "iso_8859-6:1987"]),
  (.iso7, "ISO-8859-7", ["csisolatingreek", "ecma-118", "elot_928", "greek", "greek8",
    "iso-8859-7", "iso-ir-126", "iso8859-7", "iso88597", "iso_8859-7", "iso_8859-7:1987",
    "sun_eu_greek"]),
  (.iso8, "ISO-8859-8", ["csiso88598e", "csisolatinhebrew", "hebrew", "iso-8859-8", "iso-8859-8-e",
    "iso-ir-138", "iso8859-8", "iso88598", "iso_8859-8", "iso_8859-8:1988", "visual"]),
  (.iso8i, "ISO-8859-8-I", ["csiso88598i", "iso-8859-8-i", "logical"]),
  (.iso10, "ISO-8859-10", ["csisolatin6", "iso-8859-10", "iso-ir-157", "iso8859-10", "iso885910",
    "l6", "latin6"]),
  (.iso13, "ISO-8859-13", ["iso-8859-13", "iso8859-13", "iso885913"]),
  (.iso14, "ISO-8859-14", ["iso-8859-14", "iso8859-14", "iso885914"]),
  (.iso15, "ISO-8859-15", ["csisolatin9", "iso-8859-15", "iso8859-15", "iso885915", "iso_8859-15",
    "l9"]),
  (.iso16, "ISO-8859-16", ["iso-8859-16"]),
  (.koi8r, "KOI8-R", ["cskoi8r", "koi", "koi8", "koi8-r", "koi8_r"]),
  (.koi8u, "KOI8-U", ["koi8-ru", "koi8-u"]),
  (.macintosh, "macintosh", ["csmacintosh", "mac", "macintosh", "x-mac-roman"]),
  (.windows874, "windows-874", ["dos-874", "iso-8859-11", "iso8859-11", "iso885911", "tis-620",
    "windows-874"]),
  (.windows1250, "windows-1250", ["cp1250", "windows-1250", "x-cp1250"]),
  (.windows1251, "windows-1251", ["cp1251", "windows-1251", "x-cp1251"]),
  (.windows1252, "windows-1252", ["ansi_x3.4-1968", "ascii", "cp1252", "cp819", "csisolatin1",
    "ibm819", "iso-8859-1", "iso-ir-100", "iso8859-1", "iso88591", "iso_8859-1", "iso_8859-1:1987",
    "l1", "latin1", "us-ascii", "windows-1252", "x-cp1252"]),
  (.windows1253, "windows-1253", ["cp1253", "windows-1253", "x-cp1253"]),
  (.windows1254, "windows-1254", ["cp1254", "csisolatin5", "iso-8859-9", "iso-ir-148", "iso8859-9",
    "iso88599", "iso_8859-9", "iso_8859-9:1989", "l5", "latin5", "windows-1254", "x-cp1254"]),
  (.windows1255, "windows-1255", ["cp1255", "windows-1255", "x-cp1255"]),
  (.windows1256, "windows-1256", ["cp1256", "windows-1256", "x-cp1256"]),
  (.windows1257, "windows-1257", ["cp1257", "windows-1257", "x-cp1257"]),
  (.windows1258, "windows-1258", ["cp1258", "windows-1258", "x-cp1258"]),
  (.macCyrillic, "x-mac-cyrillic", ["x-mac-cyrillic", "x-mac-ukrainian"]),
  (.gbk, "GBK", ["chinese", "csgb2312", "csiso58gb231280", "gb2312", "gb_2312", "gb_2312-80",
    "gbk", "iso-ir-58", "x-gbk"]),
  (.gb18030, "gb18030", ["gb18030"]),
  (.big5, "Big5", ["big5", "big5-hkscs", "cn-big5", "csbig5", "x-x-big5"]),
  (.eucJp, "EUC-JP", ["cseucpkdfmtjapanese", "euc-jp", "x-euc-jp"]),
  (.iso2022Jp, "ISO-2022-JP", ["csiso2022jp", "iso-2022-jp"]),
  (.shiftJis, "Shift_JIS", ["csshiftjis", "ms932", "ms_kanji", "shift-jis", "shift_jis", "sjis",
    "windows-31j", "x-sjis"]),
  (.eucKr, "EUC-KR", ["cseuckr", "csksc56011987", "euc-kr", "iso-ir-149", "korean",
    "ks_c_5601-1987", "ks_c_5601-1989", "ksc5601", "ksc_5601", "windows-949"]),
  (.replacement, "replacement", ["csiso2022kr", "hz-gb-2312", "iso-2022-cn", "iso-2022-cn-ext",
    "iso-2022-kr", "replacement"]),
  (.utf16be, "UTF-16BE", ["unicodefffe", "utf-16be"]),
  (.utf16le, "UTF-16LE", ["csunicode", "iso-10646-ucs-2", "ucs-2", "unicode", "unicodefeff",
    "utf-16", "utf-16le"]),
  (.userDefined, "x-user-defined", ["x-user-defined"])]

def name (cs : Charset) : Text :=
  match table.lookup cs with
  | some (name, _) => name.toList
  | none => []

/-- The charset with a label, in capitals or not and with blanks around it. -/
def ofLabel? (label : Text) : Option Charset :=
  let l := (Text.trim label).lower
  (table.find? fun e => e.2.2.any fun known => known.toList == l).map Prod.fst

/-- The upper half of a charset in which every byte is a character. -/
def upperHalf? : Charset → Option Index
  | ibm866 => some Index.ibm866
  | iso2 => some Index.iso2
  | iso3 => some Index.iso3
  | iso4 => some Index.iso4
  | iso5 => some Index.iso5
  | iso6 => some Index.iso6
  | iso7 => some Index.iso7
  | iso8 => some Index.iso8
  | iso8i => some Index.iso8
  | iso10 => some Index.iso10
  | iso13 => some Index.iso13
  | iso14 => some Index.iso14
  | iso15 => some Index.iso15
  | iso16 => some Index.iso16
  | koi8r => some Index.koi8r
  | koi8u => some Index.koi8u
  | macintosh => some Index.macintosh
  | windows874 => some Index.windows874
  | windows1250 => some Index.windows1250
  | windows1251 => some Index.windows1251
  | windows1252 => some Index.windows1252
  | windows1253 => some Index.windows1253
  | windows1254 => some Index.windows1254
  | windows1255 => some Index.windows1255
  | windows1256 => some Index.windows1256
  | windows1257 => some Index.windows1257
  | windows1258 => some Index.windows1258
  | macCyrillic => some Index.macCyrillic
  | _ => none

/-- Bytes from 128 on are private characters. -/
def decodeUserDefined (bs : Bytes) : Text :=
  bs.map fun b => if b < 128 then Char.ofNat b.toNat else Char.ofNat (0xF780 + (b.toNat - 128))

def encodeUserDefined (t : Text) : Option Bytes :=
  t.mapM fun c =>
    if c.toNat < 128 then some c.toNat.toUInt8
    else if 0xF780 ≤ c.toNat ∧ c.toNat ≤ 0xF7FF then some (c.toNat - 0xF780 + 128).toUInt8
    else none

def decode (cs : Charset) (bs : Bytes) : Option Text :=
  match cs with
  | utf8 => Utf8.decode bs
  | gbk => Gbk.decode bs
  | gb18030 => Gb18030.decode bs
  | big5 => Big5.decode bs
  | eucJp => EucJp.decode bs
  | iso2022Jp => Iso2022Jp.decode bs
  | shiftJis => ShiftJis.decode bs
  | eucKr => EucKr.decode bs
  | replacement => if bs.isEmpty then some [] else none
  | utf16be => Utf16.decode true bs
  | utf16le => Utf16.decode false bs
  | userDefined => some (decodeUserDefined bs)
  | cs => (upperHalf? cs).bind fun ix => decodeUpper ix bs

/-- Charsets that are only read are written as UTF-8. -/
def encode (cs : Charset) (t : Text) : Option Bytes :=
  match cs with
  | utf8 | replacement | utf16be | utf16le => some (Utf8.encode t)
  | gbk => Gbk.encode t
  | gb18030 => Gb18030.encode t
  | big5 => Big5.encode t
  | eucJp => EucJp.encode t
  | iso2022Jp => Iso2022Jp.encode t
  | shiftJis => ShiftJis.encode t
  | eucKr => EucKr.encode t
  | userDefined => encodeUserDefined t
  | cs => (upperHalf? cs).bind fun ix => encodeUpper ix t

end Charset

/-- What can go wrong with a charset. -/
inductive CharsetError where
  | unknown (label : Text)
  | malformed (cs : Charset)
  | unrepresentable (cs : Charset)
  deriving DecidableEq, Repr

namespace CharsetError

def message : CharsetError → Text
  | unknown label => "Unknown charset: ".toList ++ label
  | malformed cs => "Charset conversion error: malformed ".toList ++ cs.name ++ " input".toList
  | unrepresentable cs =>
    "Charset conversion error: text cannot be represented in ".toList ++ cs.name

end CharsetError

namespace Charset

def ofLabel (label : Text) : Except CharsetError Charset :=
  match ofLabel? label with
  | some cs => .ok cs
  | none => .error (.unknown label)

def read (cs : Charset) (bs : Bytes) : Except CharsetError Text :=
  match cs.decode bs with
  | some t => .ok t
  | none => .error (.malformed cs)

def write (cs : Charset) (t : Text) : Except CharsetError Bytes :=
  match cs.encode t with
  | some bs => .ok bs
  | none => .error (.unrepresentable cs)

/-- Bytes in another charset; those that stay in the same are not looked at. -/
def recode (bs : Bytes) (source target : Charset) : Except CharsetError Bytes :=
  if source = target then .ok bs
  else match source.read bs with
    | .ok t => target.write t
    | .error e => .error e

end Charset
end Recipients
