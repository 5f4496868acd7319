import LinkCharset.Codec.Encoder
import LinkCharset.Encoding.Pair
import LinkCharset.Encoding.SingleByte.Charts

/-! # Single-byte encodings

ASCII below `0x80` and a chart of 128 positions above. -/
namespace LinkCharset

inductive SingleByte where
  | ibm866
  | iso8859_2
  | iso8859_3
  | iso8859_4
  | iso8859_5
  | iso8859_6
  | iso8859_7
  | iso8859_8
  | iso8859_8I
  | iso8859_10
  | iso8859_13
  | iso8859_14
  | iso8859_15
  | iso8859_16
  | koi8R
  | koi8U
  | macintosh
  | windows874
  | windows1250
  | windows1251
  | windows1252
  | windows1253
  | windows1254
  | windows1255
  | windows1256
  | windows1257
  | windows1258
  | macCyrillic
  | userDefined
  deriving DecidableEq, Repr

namespace SingleByte

def all : List SingleByte :=
  [.ibm866, .iso8859_2, .iso8859_3, .iso8859_4, .iso8859_5, .iso8859_6, .iso8859_7, .iso8859_8,
   .iso8859_8I, .iso8859_10, .iso8859_13, .iso8859_14, .iso8859_15, .iso8859_16, .koi8R, .koi8U,
   .macintosh, .windows874, .windows1250, .windows1251, .windows1252, .windows1253, .windows1254,
   .windows1255, .windows1256, .windows1257, .windows1258, .macCyrillic, .userDefined]

def name : SingleByte → String
  | ibm866 => "IBM866"
  | iso8859_2 => "ISO-8859-2"
  | iso8859_3 => "ISO-8859-3"
  | iso8859_4 => "ISO-8859-4"
  | iso8859_5 => "ISO-8859-5"
  | iso8859_6 => "ISO-8859-6"
  | iso8859_7 => "ISO-8859-7"
  | iso8859_8 => "ISO-8859-8"
  | iso8859_8I => "ISO-8859-8-I"
  | iso8859_10 => "ISO-8859-10"
  | iso8859_13 => "ISO-8859-13"
  | iso8859_14 => "ISO-8859-14"
  | iso8859_15 => "ISO-8859-15"
  | iso8859_16 => "ISO-8859-16"
  | koi8R => "KOI8-R"
  | koi8U => "KOI8-U"
  | macintosh => "macintosh"
  | windows874 => "windows-874"
  | windows1250 => "windows-1250"
  | windows1251 => "windows-1251"
  | windows1252 => "windows-1252"
  | windows1253 => "windows-1253"
  | windows1254 => "windows-1254"
  | windows1255 => "windows-1255"
  | windows1256 => "windows-1256"
  | windows1257 => "windows-1257"
  | windows1258 => "windows-1258"
  | macCyrillic => "x-mac-cyrillic"
  | userDefined => "x-user-defined"

def labels : SingleByte → List String
  | ibm866 =>
    ["866", "cp866", "csibm866", "ibm866"]
  | iso8859_2 =>
    ["csisolatin2", "iso-8859-2", "iso-ir-101", "iso8859-2", "iso88592", "iso_8859-2",
     "iso_8859-2:1987", "l2", "latin2"]
  | iso8859_3 =>
    ["csisolatin3", "iso-8859-3", "iso-ir-109", "iso8859-3", "iso88593", "iso_8859-3",
     "iso_8859-3:1988", "l3", "latin3"]
  | iso8859_4 =>
    ["csisolatin4", "iso-8859-4", "iso-ir-110", "iso8859-4", "iso88594", "iso_8859-4",
     "iso_8859-4:1988", "l4", "latin4"]
  | iso8859_5 =>
    ["csisolatincyrillic", "cyrillic", "iso-8859-5", "iso-ir-144", "iso8859-5", "iso88595",
     "iso_8859-5", "iso_8859-5:1988"]
  | iso8859_6 =>
    ["arabic", "asmo-708", "csiso88596e", "csiso88596i", "csisolatinarabic", "ecma-114",
     "iso-8859-6", "iso-8859-6-e", "iso-8859-6-i", "iso-ir-127", "iso8859-6", "iso88596",
     "iso_8859-6", "iso_8859-6:1987"]
  | iso8859_7 =>
    ["csisolatingreek", "ecma-118", "elot_928", "greek", "greek8", "iso-8859-7", "iso-ir-126",
     "iso8859-7", "iso88597", "iso_8859-7", "iso_8859-7:1987", "sun_eu_greek"]
  | iso8859_8 =>
    ["csiso88598e", "csisolatinhebrew", "hebrew", "iso-8859-8", "iso-8859-8-e", "iso-ir-138",
     "iso8859-8", "iso88598", "iso_8859-8", "iso_8859-8:1988", "visual"]
  | iso8859_8I =>
    ["csiso88598i", "iso-8859-8-i", "logical"]
  | iso8859_10 =>
    ["csisolatin6", "iso-8859-10", "iso-ir-157", "iso8859-10", "iso885910", "l6", "latin6"]
  | iso8859_13 =>
    ["iso-8859-13", "iso8859-13", "iso885913"]
  | iso8859_14 =>
    ["iso-8859-14", "iso8859-14", "iso885914"]
  | iso8859_15 =>
    ["csisolatin9", "iso-8859-15", "iso8859-15", "iso885915", "iso_8859-15", "l9"]
  | iso8859_16 =>
    ["iso-8859-16"]
  | koi8R =>
    ["cskoi8r", "koi", "koi8", "koi8-r", "koi8_r"]
  | koi8U =>
    ["koi8-ru", "koi8-u"]
  | macintosh =>
    ["csmacintosh", "mac", "macintosh", "x-mac-roman"]
  | windows874 =>
    ["dos-874", "iso-8859-11", "iso8859-11", "iso885911", "tis-620", "windows-874"]
  | windows1250 =>
    ["cp1250", "windows-1250", "x-cp1250"]
  | windows1251 =>
    ["cp1251", "windows-1251", "x-cp1251"]
  | windows1252 =>
    ["ansi_x3.4-1968", "ascii", "cp1252", "cp819", "csisolatin1", "ibm819", "iso-8859-1",
     "iso-ir-100", "iso8859-1", "iso88591", "iso_8859-1", "iso_8859-1:1987", "l1", "latin1",
     "us-ascii", "windows-1252", "x-cp1252"]
  | windows1253 =>
    ["cp1253", "windows-1253", "x-cp1253"]
  | windows1254 =>
    ["cp1254", "csisolatin5", "iso-8859-9", "iso-ir-148", "iso8859-9", "iso88599", "iso_8859-9",
     "iso_8859-9:1989", "l5", "latin5", "windows-1254", "x-cp1254"]
  | windows1255 =>
    ["cp1255", "windows-1255", "x-cp1255"]
  | windows1256 =>
    ["cp1256", "windows-1256", "x-cp1256"]
  | windows1257 =>
    ["cp1257", "windows-1257", "x-cp1257"]
  | windows1258 =>
    ["cp1258", "windows-1258", "x-cp1258"]
  | macCyrillic =>
    ["x-mac-cyrillic"]
  | userDefined =>
    ["x-user-defined"]

/-- The upper half. The two orders of Hebrew share theirs. -/
def chart : SingleByte → Chart
  | ibm866 => Charts.ibm866
  | iso8859_2 => Charts.iso8859_2
  | iso8859_3 => Charts.iso8859_3
  | iso8859_4 => Charts.iso8859_4
  | iso8859_5 => Charts.iso8859_5
  | iso8859_6 => Charts.iso8859_6
  | iso8859_7 => Charts.iso8859_7
  | iso8859_8 => Charts.iso8859_8
  | iso8859_8I => Charts.iso8859_8
  | iso8859_10 => Charts.iso8859_10
  | iso8859_13 => Charts.iso8859_13
  | iso8859_14 => Charts.iso8859_14
  | iso8859_15 => Charts.iso8859_15
  | iso8859_16 => Charts.iso8859_16
  | koi8R => Charts.koi8R
  | koi8U => Charts.koi8U
  | macintosh => Charts.macintosh
  | windows874 => Charts.windows874
  | windows1250 => Charts.windows1250
  | windows1251 => Charts.windows1251
  | windows1252 => Charts.windows1252
  | windows1253 => Charts.windows1253
  | windows1254 => Charts.windows1254
  | windows1255 => Charts.windows1255
  | windows1256 => Charts.windows1256
  | windows1257 => Charts.windows1257
  | windows1258 => Charts.windows1258
  | macCyrillic => Charts.macCyrillic
  | userDefined => Charts.userDefined

def char? (t : SingleByte) (b : UInt8) : Option Char :=
  if isAscii b then some (Char.ofNat b.toNat) else t.chart.char? (b.toNat - 0x80)

def byte? (t : SingleByte) (c : Char) : Option UInt8 :=
  if c.toNat < 0x80 then some (.ofNat c.toNat)
  else (t.chart.position? c).map fun p => .ofNat (0x80 + p)

def read (t : SingleByte) (b : UInt8) (_ : Bytes) : Reading Unit :=
  match t.char? b with
  | some c => .char c 1
  | none => .bad 1

def margin : SingleByte → Margin
  | userDefined => .even 3
  | _ => .uneven 3 true

def decoder (t : SingleByte) : Decoder := .stateless t.margin t.read

def encoder (t : SingleByte) : Encoder := .stateless (.even 1) fun c => (t.byte? c).map ([·])

end SingleByte

end LinkCharset
