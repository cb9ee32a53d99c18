/-
Text encodings.

Scripts are encoded and the output of the shell is decoded in one of four encodings.
A text with a character that the encoding lacks cannot be encoded.  Decoding never
fails: each maximal run of bytes that begins a character but does not complete it, and
each byte that can begin none, is read as the replacement character.
-/

namespace RowShell

inductive Encoding where
  | utf8
  | ascii
  | latin1
  | utf16le
  deriving DecidableEq

namespace Encoding

/-- Stands for bytes that are no character. -/
def replacement : Char := '\ufffd'

/-! ### Names -/

/-- The words of an encoding's name in lower case, joined by underscores.  A dot belongs to a
word. -/
def normalized (name : String) : String :=
  let words := name.toList.splitOnP fun c => !(c.isAlphanum || c == '.')
  let words := words.filter (!·.isEmpty)
  "_".intercalate (words.map fun word => String.ofList (word.map Char.toLower))

/-- Whether a name is one of several aliases, or is one with underscores for its dots. -/
def isAlias (aliases : List String) (name : String) : Bool :=
  aliases.contains name ||
    aliases.contains (String.ofList (name.toList.map fun c => if c == '.' then '_' else c))

/-- The name under which an encoding is kept. -/
def ownName : Encoding → String
  | .utf8 => "utf_8"
  | .ascii => "ascii"
  | .latin1 => "latin_1"
  | .utf16le => "utf_16_le"

/-- The further names of an encoding. -/
def aliases : Encoding → List String
  | .utf8 => ["cp65001", "u8", "utf", "utf8", "utf8_ucs2", "utf8_ucs4"]
  | .ascii =>
    ["646", "ansi_x3.4_1968", "ansi_x3.4_1986", "ansi_x3_4_1968", "cp367", "csascii", "ibm367",
      "iso646_us", "iso_646.irv_1991", "iso_ir_6", "us", "us_ascii"]
  | .latin1 =>
    ["8859", "cp819", "csisolatin1", "ibm819", "iso8859", "iso8859_1", "iso_8859_1",
      "iso_8859_1_1987", "iso_ir_100", "l1", "latin", "latin1"]
  | .utf16le => ["unicodelittleunmarked", "utf_16le"]

def all : List Encoding := [.utf8, .ascii, .latin1, .utf16le]

/-- The encoding with a name, written in any case and with any punctuation. -/
def ofName? (name : String) : Option Encoding :=
  let name := normalized name
  all.find? fun encoding => name == encoding.ownName || isAlias encoding.aliases name

/-- The own names of the encodings that are known besides and not described here. -/
def otherNames : List String :=
  ["big5", "big5hkscs", "charmap", "cp037", "cp1006", "cp1026", "cp1125", "cp1140", "cp1250",
    "cp1251", "cp1252", "cp1253", "cp1254", "cp1255", "cp1256", "cp1257", "cp1258", "cp273",
    "cp424", "cp437", "cp500", "cp720", "cp737", "cp775", "cp850", "cp852", "cp855", "cp856",
    "cp857", "cp858", "cp860", "cp861", "cp862", "cp863", "cp864", "cp865", "cp866", "cp869",
    "cp874", "cp875", "cp932", "cp949", "cp950", "euc_jis_2004", "euc_jisx0213", "euc_jp",
    "euc_kr", "gb18030", "gb2312", "gbk", "hp_roman8", "hz", "idna", "iso2022_jp", "iso2022_jp_1",
    "iso2022_jp_2", "iso2022_jp_2004", "iso2022_jp_3", "iso2022_jp_ext", "iso2022_kr",
    "iso8859_10", "iso8859_11", "iso8859_13", "iso8859_14", "iso8859_15", "iso8859_16",
    "iso8859_2", "iso8859_3", "iso8859_4", "iso8859_5", "iso8859_6", "iso8859_7", "iso8859_8",
    "iso8859_9", "johab", "koi8_r", "koi8_t", "koi8_u", "kz1048", "mac_arabic", "mac_croatian",
    "mac_cyrillic", "mac_farsi", "mac_greek", "mac_iceland", "mac_latin2", "mac_roman",
    "mac_romanian", "mac_turkish", "palmos", "ptcp154", "punycode", "raw_unicode_escape",
    "shift_jis", "shift_jis_2004", "shift_jisx0213", "tis_620", "unicode_escape", "utf_16",
    "utf_16_be", "utf_32", "utf_32_be", "utf_32_le", "utf_7", "utf_8_sig"]

/-- The further names of these encodings. -/
def otherAliases : List String :=
  ["037", "1026", "1125", "1140", "1250", "1251", "1252", "1253", "1254", "1255", "1256", "1257",
    "1258", "273", "424", "437", "500", "775", "850", "852", "855", "857", "858", "860", "861",
    "862", "863", "864", "865", "866", "869", "932", "936", "949", "950", "arabic", "asmo_708",
    "big5_hkscs", "big5_tw", "chinese", "cp1051", "cp1361", "cp154", "cp866u", "cp936", "cp_gr",
    "cp_is", "csbig5", "csibm037", "csibm1026", "csibm273", "csibm424", "csibm500", "csibm855",
    "csibm857", "csibm858", "csibm860", "csibm861", "csibm863", "csibm864", "csibm865",
    "csibm866", "csibm869", "csiso2022jp", "csiso2022kr", "csiso58gb231280", "csisolatin2",
    "csisolatin3", "csisolatin4", "csisolatin5", "csisolatin6", "csisolatinarabic",
    "csisolatincyrillic", "csisolatingreek", "csisolatinhebrew", "cskoi8r", "cspc775baltic",
    "cspc850multilingual", "cspc862latinhebrew", "cspc8codepage437", "cspcp852", "csptcp154",
    "csshiftjis", "cyrillic", "cyrillic_asian", "ebcdic_cp_be", "ebcdic_cp_ca", "ebcdic_cp_ch",
    "ebcdic_cp_he", "ebcdic_cp_nl", "ebcdic_cp_us", "ebcdic_cp_wt", "ecma_114", "ecma_118",
    "elot_928", "euc_cn", "euc_jis2004", "euccn", "eucgb2312_cn", "eucjis2004", "eucjisx0213",
    "eucjp", "euckr", "gb18030_2000", "gb2312_1980", "gb2312_80", "greek", "greek8", "hebrew",
    "hkscs", "hz_gb", "hz_gb_2312", "hzgb", "ibm037", "ibm039", "ibm1026", "ibm1051", "ibm1125",
    "ibm1140", "ibm273", "ibm424", "ibm437", "ibm500", "ibm775", "ibm850", "ibm852", "ibm855",
    "ibm857", "ibm858", "ibm860", "ibm861", "ibm862", "ibm863", "ibm864", "ibm865", "ibm866",
    "ibm869", "iso2022jp", "iso2022jp_1", "iso2022jp_2", "iso2022jp_2004", "iso2022jp_3",
    "iso2022jp_ext", "iso2022kr", "iso_2022_jp", "iso_2022_jp_1", "iso_2022_jp_2",
    "iso_2022_jp_2004", "iso_2022_jp_3", "iso_2022_jp_ext", "iso_2022_kr", "iso_8859_10",
    "iso_8859_10_1992", "iso_8859_11", "iso_8859_11_2001", "iso_8859_13", "iso_8859_14",
    "iso_8859_14_1998", "iso_8859_15", "iso_8859_16", "iso_8859_16_2001", "iso_8859_2",
    "iso_8859_2_1987", "iso_8859_3", "iso_8859_3_1988", "iso_8859_4", "iso_8859_4_1988",
    "iso_8859_5", "iso_8859_5_1988", "iso_8859_6", "iso_8859_6_1987", "iso_8859_7",
    "iso_8859_7_1987", "iso_8859_8", "iso_8859_8_1988", "iso_8859_9", "iso_8859_9_1989",
    "iso_celtic", "iso_ir_101", "iso_ir_109", "iso_ir_110", "iso_ir_126", "iso_ir_127",
    "iso_ir_138", "iso_ir_144", "iso_ir_148", "iso_ir_157", "iso_ir_166", "iso_ir_199",
    "iso_ir_226", "iso_ir_58", "jisx0213", "korean", "ks_c_5601", "ks_c_5601_1987", "ks_x_1001",
    "ksc5601", "ksx1001", "kz_1048", "l10", "l2", "l3", "l4", "l5", "l6", "l7", "l8", "l9",
    "latin10", "latin2", "latin3", "latin4", "latin5", "latin6", "latin7", "latin8", "latin9",
    "mac_centeuro", "maccentraleurope", "maccyrillic", "macgreek", "maciceland", "macintosh",
    "maclatin2", "macroman", "macturkish", "ms1361", "ms932", "ms936", "ms949", "ms950",
    "ms_kanji", "mskanji", "pt154", "r8", "rk1048", "roman8", "ruscii", "s_jis", "s_jis_2004",
    "s_jisx0213", "shiftjis", "shiftjis2004", "shiftjisx0213", "sjis", "sjis_2004", "sjisx0213",
    "strk1048_2002", "thai", "tis620", "tis_620_0", "tis_620_2529_0", "tis_620_2529_1", "u16",
    "u32", "u7", "u_jis", "uhc", "ujis", "unicode_1_1_utf_7", "unicodebigunmarked", "utf16",
    "utf32", "utf7", "utf_16be", "utf_32be", "utf_32le", "windows_1250", "windows_1251",
    "windows_1252", "windows_1253", "windows_1254", "windows_1255", "windows_1256",
    "windows_1257", "windows_1258", "x_mac_japanese", "x_mac_korean", "x_mac_simp_chinese",
    "x_mac_trad_chinese"]

/-- Whether a name is that of one of the encodings that are not described here. -/
def isOther (name : String) : Bool :=
  let name := normalized name
  otherNames.contains name || isAlias otherAliases name

/-! ### Encoding -/

/-- The bytes of a character in UTF-8. -/
def utf8Bytes (c : Char) : List UInt8 :=
  let n := c.toNat
  if n < 0x80 then [.ofNat n]
  else if n < 0x800 then [.ofNat (0xc0 + n / 0x40), .ofNat (0x80 + n % 0x40)]
  else if n < 0x10000 then
    [.ofNat (0xe0 + n / 0x1000), .ofNat (0x80 + n / 0x40 % 0x40), .ofNat (0x80 + n % 0x40)]
  else
    [.ofNat (0xf0 + n / 0x40000), .ofNat (0x80 + n / 0x1000 % 0x40),
      .ofNat (0x80 + n / 0x40 % 0x40), .ofNat (0x80 + n % 0x40)]

/-- The bytes of a unit of sixteen bits, the lower one first. -/
def unitBytes (unit : Nat) : List UInt8 := [.ofNat (unit % 0x100), .ofNat (unit / 0x100)]

/-- The bytes of a character in UTF-16: one unit, or two for a character beyond the
first plane. -/
def utf16Bytes (c : Char) : List UInt8 :=
  let n := c.toNat
  if n < 0x10000 then unitBytes n
  else
    unitBytes (0xd800 + (n - 0x10000) / 0x400) ++ unitBytes (0xdc00 + (n - 0x10000) % 0x400)

/-- The bytes of a character, unless the encoding lacks it. -/
def bytes? (encoding : Encoding) (c : Char) : Option (List UInt8) :=
  match encoding with
  | .utf8 => some (utf8Bytes c)
  | .ascii => if c.toNat < 0x80 then some [.ofNat c.toNat] else none
  | .latin1 => if c.toNat < 0x100 then some [.ofNat c.toNat] else none
  | .utf16le => some (utf16Bytes c)

/-- The bytes of a text, unless the encoding lacks one of its characters. -/
def encodeChars? (encoding : Encoding) : List Char → Option (List UInt8)
  | [] => some []
  | c :: rest => do return (← encoding.bytes? c) ++ (← encodeChars? encoding rest)

def encode? (encoding : Encoding) (s : String) : Option (List UInt8) :=
  encoding.encodeChars? s.toList

/-! ### Decoding UTF-8 -/

/-- A character in progress: how many bytes are missing, the range in which the next
one has to lie, and the bits read so far. -/
structure Pending where
  missing : Nat
  least : UInt8
  greatest : UInt8
  bits : Nat

/-- What a byte that begins a character yields.  The range of the second byte leaves out
the overlong forms, the surrogates and what lies beyond the last plane. -/
def begin? (byte : UInt8) : Char ⊕ Pending :=
  let n := byte.toNat
  if n < 0x80 then .inl (Char.ofNat n)
  else if n < 0xc2 then .inl replacement
  else if n < 0xe0 then .inr ⟨1, 0x80, 0xbf, n - 0xc0⟩
  else if n < 0xf0 then
    .inr ⟨2, if n = 0xe0 then 0xa0 else 0x80, if n = 0xed then 0x9f else 0xbf, n - 0xe0⟩
  else if n < 0xf5 then
    .inr ⟨3, if n = 0xf0 then 0x90 else 0x80, if n = 0xf4 then 0x8f else 0xbf, n - 0xf0⟩
  else .inl replacement

/-- Decodes bytes after the character in progress, if there is one. -/
def utf8From : Option Pending → List UInt8 → List Char
  | none, [] => []
  | some _, [] => [replacement]
  | none, byte :: rest =>
    match begin? byte with
    | .inl c => c :: utf8From none rest
    | .inr pending => utf8From (some pending) rest
  | some pending, byte :: rest =>
    if pending.least ≤ byte && byte ≤ pending.greatest then
      let bits := pending.bits * 0x40 + (byte.toNat - 0x80)
      if pending.missing ≤ 1 then Char.ofNat bits :: utf8From none rest
      else utf8From (some ⟨pending.missing - 1, 0x80, 0xbf, bits⟩) rest
    else
      replacement ::
        match begin? byte with
        | .inl c => c :: utf8From none rest
        | .inr next => utf8From (some next) rest

/-! ### Decoding UTF-16 -/

/-- The unit of two bytes, the lower one first. -/
def unitOf (low high : UInt8) : Nat := low.toNat + 0x100 * high.toNat

/-- A unit that begins a pair. -/
def isLeading (unit : Nat) : Bool := 0xd800 ≤ unit && unit < 0xdc00

/-- A unit that ends a pair. -/
def isTrailing (unit : Nat) : Bool := 0xdc00 ≤ unit && unit < 0xe000

/-- The character of a pair of units. -/
def ofPair (leading trailing : Nat) : Char :=
  Char.ofNat (0x10000 + (leading - 0xd800) * 0x400 + (trailing - 0xdc00))

def utf16From : List UInt8 → List Char
  | [] => []
  | [_] => [replacement]
  | low :: high :: rest =>
    let unit := unitOf low high
    if isLeading unit then
      match rest with
      | low' :: high' :: rest' =>
        if isTrailing (unitOf low' high') then ofPair unit (unitOf low' high') :: utf16From rest'
        else replacement :: utf16From (low' :: high' :: rest')
      | _ => [replacement]
    else if isTrailing unit then replacement :: utf16From rest
    else Char.ofNat unit :: utf16From rest

/-! ### Decoding -/

def decodeChars (encoding : Encoding) (bytes : List UInt8) : List Char :=
  match encoding with
  | .utf8 => utf8From none bytes
  | .ascii => bytes.map fun byte => if byte < 0x80 then Char.ofNat byte.toNat else replacement
  | .latin1 => bytes.map fun byte => Char.ofNat byte.toNat
  | .utf16le => utf16From bytes

def decode (encoding : Encoding) (bytes : List UInt8) : String :=
  String.ofList (encoding.decodeChars bytes)

/-- The text whose bytes are given, if there is one. -/
def decode? (encoding : Encoding) (bytes : List UInt8) : Option String :=
  let s := encoding.decode bytes
  if encoding.encode? s = some bytes then some s else none

end Encoding

end RowShell
