import LinkCharset.Codec.Decoder

/-! # Pairs of bytes

The recovery rule of the two-byte encodings: a trail that makes no character is taken along with
its lead, unless it is ASCII and can be read by itself. -/
namespace LinkCharset

namespace Decoder

/-- A decoder that reads every item in the same way. -/
def stateless (m : Margin) (read : UInt8 → Bytes → Reading Unit) : Decoder where
  Mode := Unit
  start := ()
  read _ := read
  wants busy b _ := m.wants busy b.toNat
  busies busy b := m.busies busy b.toNat

end Decoder

namespace Reading

def char (c : Char) (length : Nat) : Reading Unit := .text [c] length ()

def bad (length : Nat) : Reading Unit := .malformed length 0 ()

/-- The failure of a sequence at a byte that may be ASCII, after `length` bytes before it. -/
def badTrail (length : Nat) (trail : UInt8) : Reading Unit :=
  if isAscii trail then bad length else bad (length + 1)

/-- Reads the trail of a lead byte. -/
def pair (chars? : UInt8 → Option (List Char)) : Bytes → Reading Unit
  | [] => bad 1
  | trail :: _ =>
    match chars? trail with
    | some chars => .text chars 2 ()
    | none => badTrail 1 trail

end Reading

end LinkCharset
