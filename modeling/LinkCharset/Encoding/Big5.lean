import LinkCharset.Codec.Encoder
import LinkCharset.Encoding.Big5.Rows
import LinkCharset.Encoding.Grid
import LinkCharset.Encoding.Pair

/-! # Big5

ASCII and pairs, 157 positions to a lead. Four pairs stand for a letter and a mark each. -/
namespace LinkCharset.Big5

def pairs : Grid := .ofText 157 pairRows

/-- The letter and the mark of the pairs that stand for two characters. -/
def composed? (position : Nat) : Option (List Char) :=
  match position with
  | 1133 => some [Char.ofNat 0xCA, Char.ofNat 0x304]
  | 1135 => some [Char.ofNat 0xCA, Char.ofNat 0x30C]
  | 1164 => some [Char.ofNat 0xEA, Char.ofNat 0x304]
  | 1166 => some [Char.ofNat 0xEA, Char.ofNat 0x30C]
  | _ => none

def isLead (b : UInt8) : Bool := 0x81 ≤ b && b ≤ 0xFE

def isTrail (b : UInt8) : Bool := (0x40 ≤ b && b ≤ 0x7E) || (0xA1 ≤ b && b ≤ 0xFE)

def position (lead trail : UInt8) : Nat :=
  157 * (lead.toNat - 0x81) + (trail.toNat - (if trail < 0x7F then 0x40 else 0x62))

def pair? (lead trail : UInt8) : Option (List Char) :=
  if isTrail trail then
    let p := position lead trail
    match composed? p with
    | some chars => some chars
    | none => (pairs.char? p).map ([·])
  else none

def read (b : UInt8) (rest : Bytes) : Reading Unit :=
  if isAscii b then .char (Char.ofNat b.toNat) 1
  else if isLead b then .pair (pair? b) rest
  else .bad 1

def decoder : Decoder := .stateless (.uneven 4 false) read

def positionBytes (position : Nat) : Bytes :=
  let cell := position % 157
  [.ofNat (0x81 + position / 157), .ofNat (cell + (if cell < 0x3F then 0x40 else 0x62))]

/-- The rows before this one are only read. -/
def writtenRows : Grid := { pairs with rows := pairs.rows.drop 32 }

/-- Characters in two places of which the last is written. -/
def isWrittenLast (c : Char) : Bool :=
  [0x2550, 0x255E, 0x2561, 0x256A, 0x5341, 0x5345].contains c.toNat

def writtenPosition? (c : Char) : Option Nat :=
  (if isWrittenLast c then writtenRows.lastPosition? c else writtenRows.position? c).map
    (157 * 32 + ·)

def bytes? (c : Char) : Option Bytes :=
  if c.toNat < 0x80 then some [.ofNat c.toNat] else (writtenPosition? c).map positionBytes

def encoder : Encoder := .stateless (.uneven 2 false) bytes?

end LinkCharset.Big5
