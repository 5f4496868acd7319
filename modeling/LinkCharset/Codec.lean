import LinkCharset.Bytes

/-! # Codecs

A codec converts bytes piece by piece: each call is given some input and some room for output and
reports how far it came and why it stopped. -/
namespace LinkCharset

/-- Why a conversion call returned. -/
inductive Status where
  /-- All input was consumed and flushed. -/
  | complete
  /-- The room does not hold the next converted character. -/
  | outputFull
  /-- The input stops being readable at the reported position. -/
  | invalid
  /-- The end of the input cuts short what stands at the reported position. -/
  | incomplete
  | failed (code : Int)
  deriving DecidableEq, Repr

/-- The outcome of one conversion call: what it says of its progress, and the bytes it put at the
start of its room. -/
structure Conversion where
  read : Nat
  written : Nat
  status : Status
  output : Bytes
  deriving DecidableEq, Repr

/-- A conversion context with states `σ`. -/
structure Codec (σ : Type) where
  /-- Converts the start of some input into a room of the given size. -/
  convert : σ → Bytes → Nat → Conversion × σ
  /-- Forgets shift states and pending input. -/
  reset : σ → σ
  /-- How many calls are allowed for an input of the given length. -/
  callLimit : σ → Nat → Nat

/-- The room that a converter waits for before it takes an item, even if the item needs less. Behind an
item that is not ASCII a converter is busy, and waits for as much before ASCII too. -/
structure Margin where
  /-- Before ASCII, unless the converter is busy. -/
  ascii : Nat
  other : Nat
  /-- Whether an item leaves the converter busy, given whether it was so before and the first unit of the
  item: a byte that is decoded, or a character that is encoded. -/
  busies : Bool → Nat → Bool

namespace Margin

def even (room : Nat) : Margin := ⟨room, room, fun _ _ => false⟩

/-- A byte before ASCII, which ends a busy stretch; if it lingers, spaces and punctuation do not. -/
def uneven (room : Nat) (lingers : Bool) : Margin :=
  ⟨1, room, fun busy unit => 0x80 ≤ unit || (busy && lingers && unit < 0x3C)⟩

def wants (m : Margin) (busy : Bool) (unit : Nat) : Nat :=
  if unit < 0x80 && !busy then m.ascii else m.other

end Margin

end LinkCharset
