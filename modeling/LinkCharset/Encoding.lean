import LinkCharset.Encoding.Big5
import LinkCharset.Encoding.EucJp
import LinkCharset.Encoding.EucKr
import LinkCharset.Encoding.Gb
import LinkCharset.Encoding.Iso2022Jp
import LinkCharset.Encoding.Replacement
import LinkCharset.Encoding.ShiftJis
import LinkCharset.Encoding.SingleByte
import LinkCharset.Encoding.Utf16
import LinkCharset.Encoding.Utf8

/-! # Encodings

The encodings of the web, the labels that name them, and the decoder and encoder of each. -/
namespace LinkCharset

inductive Encoding where
  | utf8
  | utf16 (order : Utf16.Order)
  | replacement
  | singleByte (table : SingleByte)
  | shiftJis
  | eucJp
  | iso2022Jp
  | gbk
  | gb18030
  | big5
  | eucKr
  deriving DecidableEq, Repr

namespace Encoding

def all : List Encoding :=
  [.utf8, .utf16 .little, .utf16 .big, .replacement, .shiftJis, .eucJp, .iso2022Jp, .gbk,
   .gb18030, .big5, .eucKr] ++ SingleByte.all.map .singleByte

def name : Encoding → String
  | utf8 => "UTF-8"
  | utf16 .little => "UTF-16LE"
  | utf16 .big => "UTF-16BE"
  | replacement => "replacement"
  | shiftJis => "Shift_JIS"
  | eucJp => "EUC-JP"
  | iso2022Jp => "ISO-2022-JP"
  | gbk => "GBK"
  | gb18030 => "gb18030"
  | big5 => "Big5"
  | eucKr => "EUC-KR"
  | singleByte table => table.name

/-- Small letters throughout: a label is compared after folding its case. -/
def labels : Encoding → List String
  | utf8 =>
    ["unicode-1-1-utf-8", "unicode11utf8", "unicode20utf8", "utf-8", "utf8", "x-unicode20utf8"]
  | utf16 .little =>
    ["csunicode", "iso-10646-ucs-2", "ucs-2", "unicode", "unicodefeff", "utf-16", "utf-16le"]
  | utf16 .big =>
    ["unicodefffe", "utf-16be"]
  | replacement =>
    ["csiso2022kr", "hz-gb-2312", "iso-2022-cn", "iso-2022-cn-ext", "iso-2022-kr", "replacement"]
  | shiftJis =>
    ["csshiftjis", "ms932", "ms_kanji", "shift-jis", "shift_jis", "sjis", "windows-31j", "x-sjis"]
  | eucJp =>
    ["cseucpkdfmtjapanese", "euc-jp", "x-euc-jp"]
  | iso2022Jp =>
    ["csiso2022jp", "iso-2022-jp"]
  | gbk =>
    ["chinese", "csgb2312", "csiso58gb231280", "gb2312", "gb_2312", "gb_2312-80", "gbk",
     "iso-ir-58", "x-gbk"]
  | gb18030 =>
    ["gb18030"]
  | big5 =>
    ["big5", "big5-hkscs", "cn-big5", "csbig5", "x-x-big5"]
  | eucKr =>
    ["cseuckr", "csksc56011987", "euc-kr", "iso-ir-149", "korean", "ks_c_5601-1987",
     "ks_c_5601-1989", "ksc5601", "ksc_5601", "windows-949"]
  | singleByte table => table.labels

/-- Tab, line feed, form feed, carriage return and space may stand around a label. -/
def isLabelBlank (c : Char) : Bool :=
  c == '\t' || c == '\n' || c == '\x0c' || c == '\r' || c == ' '

def trimLabel (cs : List Char) : List Char :=
  ((cs.dropWhile isLabelBlank).reverse.dropWhile isLabelBlank).reverse

/-- ASCII capitals become small; no other character changes. -/
def foldLabel (cs : List Char) : List Char := cs.map Char.toLower

def ofLabel? (label : String) : Option Encoding :=
  let key := String.ofList (foldLabel (trimLabel label.toList))
  all.find? fun e => e.labels.contains key

def decoder : Encoding → Decoder
  | utf8 => Utf8.decoder
  | utf16 order => Utf16.decoder order
  | replacement => Replacement.decoder
  | singleByte table => table.decoder
  | shiftJis => ShiftJis.decoder
  | eucJp => EucJp.decoder
  | iso2022Jp => Iso2022Jp.decoder
  | gbk => Gb.decoder
  | gb18030 => Gb.decoder
  | big5 => Big5.decoder
  | eucKr => EucKr.decoder

/-- The encoding used to write: some encodings are only ever read. -/
def writtenAs : Encoding → Encoding
  | utf16 _ => utf8
  | replacement => utf8
  | e => e

def encoder : Encoding → Encoder
  | utf8 => Utf8.encoder
  | utf16 _ => Utf8.encoder
  | replacement => Utf8.encoder
  | singleByte table => table.encoder
  | shiftJis => ShiftJis.encoder
  | eucJp => EucJp.encoder
  | iso2022Jp => Iso2022Jp.encoder
  | gbk => Gb.gbkEncoder
  | gb18030 => Gb.gb18030Encoder
  | big5 => Big5.encoder
  | eucKr => EucKr.encoder

end Encoding

/-- Whether a label names UTF-8 under any of its aliases. -/
def isUtf8Label (label : String) : Bool := Encoding.ofLabel? label == some .utf8

end LinkCharset
