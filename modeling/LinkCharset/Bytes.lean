/-! # Byte strings

Text whose encoding is not yet known, and the ASCII classes in which the rules for labels and
headers are written. -/
namespace LinkCharset

abbrev Bytes := List UInt8

def isAscii (b : UInt8) : Bool := b < 0x80

/-- Space, tab, line feed, vertical tab, form feed and carriage return. -/
def isBlank (b : UInt8) : Bool := b == 0x20 || (0x09 ≤ b && b ≤ 0x0D)

/-- ASCII capitals become small; every other byte stays. -/
def foldCase (b : UInt8) : UInt8 := if 0x41 ≤ b && b ≤ 0x5A then b + 0x20 else b

/-- Sizes and positions are words of 64 bits. -/
def wordSize : Nat := UInt64.size

/-- A difference as words have it, which wraps below zero. -/
def wordSub (a b : Nat) : Nat := if b ≤ a then a - b else wordSize - (b - a)

/-- The text of bytes that are all ASCII. -/
def asciiText (bytes : Bytes) : String := String.ofList (bytes.map fun b => Char.ofNat b.toNat)

end LinkCharset
