import LinkCharset.Codec.Encoder
import LinkCharset.Encoding.EucKr.Rows
import LinkCharset.Encoding.Grid
import LinkCharset.Encoding.Pair

/-! # EUC-KR

ASCII and pairs, 190 positions to a lead. -/
namespace LinkCharset.EucKr

def pairs : Grid := .ofText 95 pairRows

def isLead (b : UInt8) : Bool := 0x81 ≤ b && b ≤ 0xFE

def isTrail (b : UInt8) : Bool := 0x41 ≤ b && b ≤ 0xFE

def pair? (lead trail : UInt8) : Option Char :=
  if isTrail trail then pairs.char? (190 * (lead.toNat - 0x81) + (trail.toNat - 0x41)) else none

def read (b : UInt8) (rest : Bytes) : Reading Unit :=
  if isAscii b then .char (Char.ofNat b.toNat) 1
  else if isLead b then .pair (fun trail => (pair? b trail).map ([·])) rest
  else .bad 1

def decoder : Decoder := .stateless (.uneven 3 true) read

def positionBytes (position : Nat) : Bytes :=
  [.ofNat (0x81 + position / 190), .ofNat (0x41 + position % 190)]

def bytes? (c : Char) : Option Bytes :=
  if c.toNat < 0x80 then some [.ofNat c.toNat] else (pairs.position? c).map positionBytes

def encoder : Encoder := .stateless (.uneven 2 true) bytes?

end LinkCharset.EucKr
