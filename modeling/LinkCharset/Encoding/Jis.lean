import LinkCharset.Encoding.Chart
import LinkCharset.Encoding.Grid
import LinkCharset.Encoding.Jis.X0208
import LinkCharset.Encoding.Jis.X0212

/-! # Japanese character sets

The rows and cells that the three Japanese encodings share, the supplementary set of one of them,
and the half-width katakana with their full-width counterparts. Position `94 * row + cell` of a
grid counts rows and cells from zero. -/
namespace LinkCharset.Jis

/-- JIS X 0208 with its vendor rows. -/
def x0208 : Grid := .ofText 94 x0208Rows

/-- JIS X 0212. -/
def x0212 : Grid := .ofText 94 x0212Rows

/-- The full-width characters of the half-width katakana, by their place after `U+FF61`. -/
def fullWidthOf : Chart :=
  [⟨0, 1, 0x3002⟩, ⟨1, 2, 0x300C⟩, ⟨3, 1, 0x3001⟩, ⟨4, 1, 0x30FB⟩, ⟨5, 1, 0x30F2⟩, ⟨6, 1, 0x30A1⟩,
   ⟨7, 1, 0x30A3⟩, ⟨8, 1, 0x30A5⟩, ⟨9, 1, 0x30A7⟩, ⟨10, 1, 0x30A9⟩, ⟨11, 1, 0x30E3⟩,
   ⟨12, 1, 0x30E5⟩, ⟨13, 1, 0x30E7⟩, ⟨14, 1, 0x30C3⟩, ⟨15, 1, 0x30FC⟩, ⟨16, 1, 0x30A2⟩,
   ⟨17, 1, 0x30A4⟩, ⟨18, 1, 0x30A6⟩, ⟨19, 1, 0x30A8⟩, ⟨20, 2, 0x30AA⟩, ⟨22, 1, 0x30AD⟩,
   ⟨23, 1, 0x30AF⟩, ⟨24, 1, 0x30B1⟩, ⟨25, 1, 0x30B3⟩, ⟨26, 1, 0x30B5⟩, ⟨27, 1, 0x30B7⟩,
   ⟨28, 1, 0x30B9⟩, ⟨29, 1, 0x30BB⟩, ⟨30, 1, 0x30BD⟩, ⟨31, 1, 0x30BF⟩, ⟨32, 1, 0x30C1⟩,
   ⟨33, 1, 0x30C4⟩, ⟨34, 1, 0x30C6⟩, ⟨35, 1, 0x30C8⟩, ⟨36, 6, 0x30CA⟩, ⟨42, 1, 0x30D2⟩,
   ⟨43, 1, 0x30D5⟩, ⟨44, 1, 0x30D8⟩, ⟨45, 1, 0x30DB⟩, ⟨46, 5, 0x30DE⟩, ⟨51, 1, 0x30E4⟩,
   ⟨52, 1, 0x30E6⟩, ⟨53, 6, 0x30E8⟩, ⟨59, 1, 0x30EF⟩, ⟨60, 1, 0x30F3⟩, ⟨61, 2, 0x309B⟩]

def isHalfWidthKatakana (c : Char) : Bool := 0xFF61 ≤ c.toNat && c.toNat ≤ 0xFF9F

/-- The half-width katakana that a single byte from `0xA1` on stands for. -/
def halfWidth (b : UInt8) : Char := Char.ofNat (0xFF61 + (b.toNat - 0xA1))

def halfWidthByte (c : Char) : UInt8 := .ofNat (0xA1 + (c.toNat - 0xFF61))

/-- The minus sign has one place, that of its full-width form. -/
def unifyMinus (c : Char) : Char := if c.toNat = 0x2212 then Char.ofNat 0xFF0D else c

/-- A cell of a grid from two bytes that count from `base`. -/
def cell? (grid : Grid) (base row cell : UInt8) : Option Char :=
  grid.char? (94 * (row.toNat - base.toNat) + (cell.toNat - base.toNat))

/-- The two bytes of a character that count from `base`. -/
def cellBytes? (grid : Grid) (base : UInt8) (c : Char) : Option (List UInt8) :=
  (grid.position? c).map fun p =>
    [.ofNat (base.toNat + p / 94), .ofNat (base.toNat + p % 94)]

end LinkCharset.Jis
