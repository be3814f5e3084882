import Notary.Text.Encoding.Chinese
import Notary.Text.Encoding.Japanese
import Notary.Text.Encoding.Korean
import Notary.Text.Encoding.SingleByte
import Notary.Text.Encoding.Utf16

namespace Notary.Text

/-!
# Encodings by name

The character encodings that a text may declare, each with the labels that name
it. A byte order mark at the start of a text overrules its declaration.
-/

/-- A character encoding: its labels, and how it reads bytes. -/
structure Encoding where
  labels : List String
  decode : List UInt8 → List Char

namespace Encoding

/-- Read bytes one by one: the lower half is ASCII, the upper half is given. -/
def decodeSingleBytes (upper : List Nat) (bytes : List UInt8) : List Char :=
  let table := upper.toArray
  bytes.map fun b =>
    if b < 0x80 then Char.ofNat b.toNat else Char.ofNat (table.getD (b.toNat - 0x80) 0xFFFD)

/-- An encoding of single bytes. -/
def singleByte (upper : List Nat) (labels : List String) : Encoding :=
  ⟨labels, decodeSingleBytes upper⟩

/-- UTF-8. -/
def utf8 : Encoding :=
  ⟨["unicode-1-1-utf-8", "unicode11utf8", "unicode20utf8", "utf-8", "utf8", "x-unicode20utf8"],
    decodeLossy⟩

/-- UTF-16, the higher byte first. -/
def utf16BigEndian : Encoding :=
  ⟨["unicodefffe", "utf-16be"], decodeUtf16 true⟩

/-- UTF-16, the lower byte first. -/
def utf16LittleEndian : Encoding :=
  ⟨["csunicode", "iso-10646-ucs-2", "ucs-2", "unicode", "unicodefeff", "utf-16", "utf-16le"],
    decodeUtf16 false⟩

/-- Encodings that are read as one replacement character, because they are unsafe to read. -/
def unsafeToRead : Encoding :=
  ⟨["csiso2022kr", "hz-gb-2312", "iso-2022-cn", "iso-2022-cn-ext", "iso-2022-kr", "replacement"],
    fun bytes => if bytes.isEmpty then [] else [replacement]⟩

/-- The encoding that maps the upper half to private characters. -/
def userDefined : Encoding :=
  ⟨["x-user-defined"], fun bytes =>
    bytes.map fun b => Char.ofNat (if b < 0x80 then b.toNat else 0xF700 + b.toNat)⟩

/-- The encodings of one byte a character. -/
def singleBytes : List Encoding :=
  [singleByte SingleByte.ibm866
      ["866", "cp866", "csibm866", "ibm866"],
    singleByte SingleByte.iso8859Part2
      ["csisolatin2", "iso-8859-2", "iso-ir-101", "iso8859-2", "iso88592", "iso_8859-2",
        "iso_8859-2:1987", "l2", "latin2"],
    singleByte SingleByte.iso8859Part3
      ["csisolatin3", "iso-8859-3", "iso-ir-109", "iso8859-3", "iso88593", "iso_8859-3",
        "iso_8859-3:1988", "l3", "latin3"],
    singleByte SingleByte.iso8859Part4
      ["csisolatin4", "iso-8859-4", "iso-ir-110", "iso8859-4", "iso88594", "iso_8859-4",
        "iso_8859-4:1988", "l4", "latin4"],
    singleByte SingleByte.iso8859Part5
      ["csisolatincyrillic", "cyrillic", "iso-8859-5", "iso-ir-144", "iso8859-5", "iso88595",
        "iso_8859-5", "iso_8859-5:1988"],
    singleByte SingleByte.iso8859Part6
      ["arabic", "asmo-708", "csiso88596e", "csiso88596i", "csisolatinarabic", "ecma-114",
        "iso-8859-6", "iso-8859-6-e", "iso-8859-6-i", "iso-ir-127", "iso8859-6", "iso88596",
        "iso_8859-6", "iso_8859-6:1987"],
    singleByte SingleByte.iso8859Part7
      ["csisolatingreek", "ecma-118", "elot_928", "greek", "greek8", "iso-8859-7", "iso-ir-126",
        "iso8859-7", "iso88597", "iso_8859-7", "iso_8859-7:1987", "sun_eu_greek"],
    singleByte SingleByte.iso8859Part8
      ["csiso88598e", "csisolatinhebrew", "hebrew", "iso-8859-8", "iso-8859-8-e", "iso-ir-138",
        "iso8859-8", "iso88598", "iso_8859-8", "iso_8859-8:1988", "visual", "csiso88598i",
        "iso-8859-8-i", "logical"],
    singleByte SingleByte.iso8859Part10
      ["csisolatin6", "iso-8859-10", "iso-ir-157", "iso8859-10", "iso885910", "l6", "latin6"],
    singleByte SingleByte.iso8859Part13
      ["iso-8859-13", "iso8859-13", "iso885913"],
    singleByte SingleByte.iso8859Part14
      ["iso-8859-14", "iso8859-14", "iso885914"],
    singleByte SingleByte.iso8859Part15
      ["csisolatin9", "iso-8859-15", "iso8859-15", "iso885915", "iso_8859-15", "l9"],
    singleByte SingleByte.iso8859Part16
      ["iso-8859-16"],
    singleByte SingleByte.koi8R
      ["cskoi8r", "koi", "koi8", "koi8-r", "koi8_r"],
    singleByte SingleByte.koi8U
      ["koi8-ru", "koi8-u"],
    singleByte SingleByte.macintosh
      ["csmacintosh", "mac", "macintosh", "x-mac-roman"],
    singleByte SingleByte.windows874
      ["dos-874", "iso-8859-11", "iso8859-11", "iso885911", "tis-620", "windows-874"],
    singleByte SingleByte.windows1250
      ["cp1250", "windows-1250", "x-cp1250"],
    singleByte SingleByte.windows1251
      ["cp1251", "windows-1251", "x-cp1251"],
    singleByte SingleByte.windows1252
      ["ansi_x3.4-1968", "ascii", "cp1252", "cp819", "csisolatin1", "ibm819", "iso-8859-1",
        "iso-ir-100", "iso8859-1", "iso88591", "iso_8859-1", "iso_8859-1:1987", "l1", "latin1",
        "us-ascii", "windows-1252", "x-cp1252"],
    singleByte SingleByte.windows1253
      ["cp1253", "windows-1253", "x-cp1253"],
    singleByte SingleByte.windows1254
      ["cp1254", "csisolatin5", "iso-8859-9", "iso-ir-148", "iso8859-9", "iso88599",
        "iso_8859-9", "iso_8859-9:1989", "l5", "latin5", "windows-1254", "x-cp1254"],
    singleByte SingleByte.windows1255
      ["cp1255", "windows-1255", "x-cp1255"],
    singleByte SingleByte.windows1256
      ["cp1256", "windows-1256", "x-cp1256"],
    singleByte SingleByte.windows1257
      ["cp1257", "windows-1257", "x-cp1257"],
    singleByte SingleByte.windows1258
      ["cp1258", "windows-1258", "x-cp1258"],
    singleByte SingleByte.macCyrillic
      ["x-mac-cyrillic", "x-mac-ukrainian"]]

/-- The encodings of several bytes a character. -/
def multipleBytes : List Encoding :=
  [⟨["chinese", "csgb2312", "csiso58gb231280", "gb18030", "gb2312", "gb_2312", "gb_2312-80",
      "gbk", "iso-ir-58", "x-gbk"], decodeGb18030⟩,
    ⟨["big5", "big5-hkscs", "cn-big5", "csbig5", "x-x-big5"], decodeBig5⟩,
    ⟨["cseucpkdfmtjapanese", "euc-jp", "x-euc-jp"], decodeEucJp⟩,
    ⟨["csiso2022jp", "iso-2022-jp"], decodeIso2022Jp⟩,
    ⟨["csshiftjis", "ms932", "ms_kanji", "shift-jis", "shift_jis", "sjis", "windows-31j",
      "x-sjis"], decodeShiftJis⟩,
    ⟨["cseuckr", "csksc56011987", "euc-kr", "iso-ir-149", "korean", "ks_c_5601-1987",
      "ks_c_5601-1989", "ksc5601", "ksc_5601", "windows-949"], decodeEucKr⟩]

/-- All encodings. -/
def all : List Encoding :=
  [utf8, utf16BigEndian, utf16LittleEndian, unsafeToRead, userDefined] ++ singleBytes ++
    multipleBytes

/-- The blank characters that may surround a label. -/
def isLabelSpace (c : Char) : Bool :=
  c == ' ' || c == '\t' || c == '\n' || c == '\x0c' || c == '\r'

/-- A label without surrounding blanks, in lower case. -/
def normalizeLabel (label : String) : String :=
  let inner := ((label.toList.dropWhile isLabelSpace).reverse.dropWhile isLabelSpace).reverse
  String.ofList (inner.map Char.toLower)

/-- The encoding that a label names. -/
def ofLabel? (label : String) : Option Encoding :=
  all.find? fun e => e.labels.contains (normalizeLabel label)

end Encoding

/-- Read a text in the encoding it declares, unless a byte order mark says otherwise. -/
def decodeDeclared (declared : Encoding) : List UInt8 → List Char
  | 0xEF :: 0xBB :: 0xBF :: rest => decodeLossy rest
  | 0xFF :: 0xFE :: rest => decodeUtf16 false rest
  | 0xFE :: 0xFF :: rest => decodeUtf16 true rest
  | bytes => declared.decode bytes

end Notary.Text
