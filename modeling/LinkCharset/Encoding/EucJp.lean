import LinkCharset.Codec.Encoder
import LinkCharset.Encoding.Jis
import LinkCharset.Encoding.Pair

/-! # EUC-JP

ASCII, pairs of high bytes, half-width katakana after `0x8E`, and triples after `0x8F`. -/
namespace LinkCharset.EucJp

def isHigh (b : UInt8) : Bool := 0xA1 ≤ b && b ≤ 0xFE

def katakana? (trail : UInt8) : Option Char :=
  if 0xA1 ≤ trail ∧ trail ≤ 0xDF then some (Jis.halfWidth trail) else none

def pair? (lead trail : UInt8) : Option Char :=
  if isHigh trail then Jis.cell? Jis.x0208 0xA1 lead trail else none

def readTriple : Bytes → Reading Unit
  | [] => .bad 1
  | [second] => if isHigh second then .bad 2 else .badTrail 1 second
  | second :: third :: _ =>
    if !isHigh second then .badTrail 1 second
    else if !isHigh third then .badTrail 2 third
    else
      match Jis.cell? Jis.x0212 0xA1 second third with
      | some c => .char c 3
      | none => .bad 3

def read (b : UInt8) (rest : Bytes) : Reading Unit :=
  if isAscii b then .char (Char.ofNat b.toNat) 1
  else if b = 0x8E then .pair (fun trail => (katakana? trail).map ([·])) rest
  else if b = 0x8F then readTriple rest
  else if isHigh b then .pair (fun trail => (pair? b trail).map ([·])) rest
  else .bad 1

def decoder : Decoder := .stateless (.uneven 3 false) read

def bytes? (c : Char) : Option Bytes :=
  if c.toNat < 0x80 then some [.ofNat c.toNat]
  else if c.toNat = 0xA5 then some [0x5C]
  else if c.toNat = 0x203E then some [0x7E]
  else if Jis.isHalfWidthKatakana c then some [0x8E, Jis.halfWidthByte c]
  else Jis.cellBytes? Jis.x0208 0xA1 (Jis.unifyMinus c)

def encoder : Encoder := .stateless (.uneven 2 false) bytes?

end LinkCharset.EucJp
