import LinkCharset.Encoding.Pair

/-! # UTF-16

Code units of two bytes in either order, of which a high and a low surrogate make one character. -/
namespace LinkCharset.Utf16

inductive Order where
  | little
  | big
  deriving DecidableEq, Repr

def unit (order : Order) (first second : UInt8) : Nat :=
  match order with
  | .little => 0x100 * second.toNat + first.toNat
  | .big => 0x100 * first.toNat + second.toNat

def isHigh (unit : Nat) : Bool := 0xD800 ≤ unit && unit < 0xDC00

def isLow (unit : Nat) : Bool := 0xDC00 ≤ unit && unit < 0xE000

def combine (high low : Nat) : Char :=
  Char.ofNat (0x10000 + 0x400 * (high - 0xD800) + (low - 0xDC00))

/-- Reads what follows a high surrogate. A unit that is not its low one is looked at and left. -/
def readLow (order : Order) (high : Nat) : Bytes → Reading Unit
  | [] => .bad 2
  | [_] => .bad 3
  | first :: second :: _ =>
    let low := unit order first second
    if isLow low then .char (combine high low) 4 else .malformed 2 2 ()

def read (order : Order) (b : UInt8) : Bytes → Reading Unit
  | [] => .bad 1
  | second :: rest =>
    let u := unit order b second
    if isHigh u then readLow order u rest
    else if isLow u then .bad 2
    else .char (Char.ofNat u) 2

def decoder (order : Order) : Decoder := .stateless (.even 4) (read order)

end LinkCharset.Utf16
