import LinkCharset.Codec.Encoder
import LinkCharset.Encoding.Jis
import LinkCharset.Encoding.Pair

/-! # Shift_JIS

ASCII, half-width katakana in single bytes, and pairs whose lead counts rows two at a time. Pairs
count 188 positions to a lead. -/
namespace LinkCharset.ShiftJis

/-- The vendor characters behind the rows for private use. -/
def extension : Grid := .ofText 94 Jis.extensionRows

def privateUseStart : Nat := 8836

def extensionStart : Nat := 10716

/-- Rows whose characters are encoded elsewhere. -/
def isShadowed (position : Nat) : Bool := 8272 ≤ position && position < 8836

def isLead (b : UInt8) : Bool := (0x81 ≤ b && b ≤ 0x9F) || (0xE0 ≤ b && b ≤ 0xFC)

def isTrail (b : UInt8) : Bool := (0x40 ≤ b && b ≤ 0x7E) || (0x80 ≤ b && b ≤ 0xFC)

def position (lead trail : UInt8) : Nat :=
  let row := lead.toNat - (if lead < 0xA0 then 0x81 else 0xC1)
  let cell := trail.toNat - (if trail < 0x7F then 0x40 else 0x41)
  188 * row + cell

/-- Positions for private use stand for consecutive code points. -/
def char? (position : Nat) : Option Char :=
  if position < privateUseStart then Jis.x0208.char? position
  else if position < extensionStart then some (Char.ofNat (0xE000 + (position - privateUseStart)))
  else extension.char? (position - extensionStart)

def pair? (lead trail : UInt8) : Option Char :=
  if isTrail trail then char? (position lead trail) else none

def read (b : UInt8) (rest : Bytes) : Reading Unit :=
  if b ≤ 0x80 then .char (Char.ofNat b.toNat) 1
  else if 0xA1 ≤ b ∧ b ≤ 0xDF then .char (Jis.halfWidth b) 1
  else if isLead b then .pair (fun trail => (pair? b trail).map ([·])) rest
  else .bad 1

/-- Only pairs leave the decoder busy. -/
def decoder : Decoder := { Decoder.stateless (.uneven 3 false) read with busies := fun _ b => isLead b }

def positionBytes (position : Nat) : Bytes :=
  let row := position / 188
  let cell := position % 188
  [.ofNat (row + (if row < 0x1F then 0x81 else 0xC1)),
    .ofNat (cell + (if cell < 0x3F then 0x40 else 0x41))]

def extensionPosition? (c : Char) : Option Nat :=
  (extension.position? c).map (extensionStart + ·)

def encodedPosition? (c : Char) : Option Nat :=
  match Jis.x0208.position? c with
  | some p => if isShadowed p then extensionPosition? c else some p
  | none => extensionPosition? c

def bytes? (c : Char) : Option Bytes :=
  if c.toNat ≤ 0x80 then some [.ofNat c.toNat]
  else if c.toNat = 0xA5 then some [0x5C]
  else if c.toNat = 0x203E then some [0x7E]
  else if Jis.isHalfWidthKatakana c then some [Jis.halfWidthByte c]
  else (encodedPosition? (Jis.unifyMinus c)).map positionBytes

def encoder : Encoder := .stateless (.uneven 2 false) bytes?

end LinkCharset.ShiftJis
