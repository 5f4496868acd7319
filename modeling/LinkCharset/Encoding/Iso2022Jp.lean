import LinkCharset.Codec.Encoder
import LinkCharset.Encoding.Jis
import LinkCharset.Encoding.Pair

/-! # ISO-2022-JP

A stream of seven-bit bytes whose meaning is switched by escape sequences. Decoding knows four
modes; encoding uses three of them and starts and ends in ASCII. -/
namespace LinkCharset.Iso2022Jp

inductive Mode where
  | ascii
  | roman
  | katakana
  | kanji
  deriving DecidableEq, Repr

/-- The bytes that no mode gives a meaning and that never stand for themselves. -/
def isShiftControl (n : Nat) : Bool := n == 0x0E || n == 0x0F || n == 0x1B

/-- The mode that the two bytes after an escape byte designate. -/
def designated? (second third : UInt8) : Option Mode :=
  if second = 0x28 then
    if third = 0x42 then some .ascii
    else if third = 0x4A then some .roman
    else if third = 0x49 then some .katakana
    else none
  else if second = 0x24 ∧ (third = 0x40 ∨ third = 0x42) then some .kanji
  else none

def startsEscape : Bytes → Bool
  | 0x1B :: second :: third :: _ => (designated? second third).isSome
  | _ => false

/-- What a decoder remembers. -/
structure Memory where
  mode : Mode
  /-- Whether the input ended in an escape byte right behind an escape sequence. -/
  isDangling : Bool := false
  deriving DecidableEq, Repr

/-- Reads an escape sequence that leads to a mode. Of two in a row the first is bad, even if it
stood at the end of the input read before. -/
def enter (isDangling : Bool) (next : Mode) (after : Bytes) : Reading Memory :=
  if isDangling then .overdue 3 3 3 ⟨next, false⟩
  else if startsEscape after then .malformed 3 3 ⟨next, false⟩
  else .text [] 3 ⟨next, after == [0x1B]⟩

/-- Reads what follows an escape byte. -/
def readEscape (m : Memory) : Bytes → Reading Memory
  | second :: rest =>
    if second = 0x24 ∨ second = 0x28 then
      match rest with
      | third :: after =>
        match designated? second third with
        | some next => enter m.isDangling next after
        | none => .malformed 1 1 ⟨m.mode, false⟩
      | [] => .malformed 1 1 ⟨m.mode, false⟩
    else .malformed 1 0 ⟨m.mode, false⟩
  | [] => .malformed 1 0 m

/-- The character of a single byte in a mode with one byte to a character. -/
def single? (mode : Mode) (b : UInt8) : Option Char :=
  match mode with
  | .ascii => if isAscii b ∧ !isShiftControl b.toNat then some (Char.ofNat b.toNat) else none
  | .roman =>
    if b = 0x5C then some (Char.ofNat 0xA5)
    else if b = 0x7E then some (Char.ofNat 0x203E)
    else if isAscii b ∧ !isShiftControl b.toNat then some (Char.ofNat b.toNat)
    else none
  | .katakana => if 0x21 ≤ b ∧ b ≤ 0x5F then some (Jis.halfWidth (b + 0x80)) else none
  | .kanji => none

def isCell (b : UInt8) : Bool := 0x21 ≤ b && b ≤ 0x7E

/-- Reads the second byte of a pair. An escape byte there may start an escape sequence. -/
def readPair (lead : UInt8) : Bytes → Reading Memory
  | [] => .malformed 1 0 ⟨.kanji, false⟩
  | trail :: _ =>
    if trail = 0x1B then .malformed 1 1 ⟨.kanji, false⟩
    else
      match if isCell trail then Jis.cell? Jis.x0208 0x21 lead trail else none with
      | some c => .text [c] 2 ⟨.kanji, false⟩
      | none => .malformed 2 0 ⟨.kanji, false⟩

def read (m : Memory) (b : UInt8) (rest : Bytes) : Reading Memory :=
  if b = 0x1B then readEscape m rest
  else if m.mode = .kanji then
    if isCell b then readPair b rest else .malformed 1 0 ⟨m.mode, false⟩
  else
    match single? m.mode b with
    | some c => .text [c] 1 ⟨m.mode, false⟩
    | none => .malformed 1 0 ⟨m.mode, false⟩

/-- The room that every item waits for, a shift sequence among them. -/
def itemRoom : Nat := 3

abbrev decoder : Decoder :=
  ⟨Memory, ⟨.ascii, false⟩, read, fun _ _ _ => itemRoom, fun _ _ => false⟩

/-- The escape sequence that the encoder writes to enter a mode. -/
def escape : Mode → Bytes
  | .ascii => [0x1B, 0x28, 0x42]
  | .roman => [0x1B, 0x28, 0x4A]
  | .katakana => [0x1B, 0x28, 0x49]
  | .kanji => [0x1B, 0x24, 0x42]

/-- A half-width katakana is encoded as its full-width counterpart. -/
def widen (c : Char) : Char :=
  if Jis.isHalfWidthKatakana c then
    (Jis.fullWidthOf.char? (c.toNat - 0xFF61)).getD c
  else Jis.unifyMinus c

def kanjiBytes? (c : Char) : Option Bytes := Jis.cellBytes? Jis.x0208 0x21 (widen c)

/-- Characters that exist only in the mode that replaces two characters of ASCII. -/
def isRomanOnly (c : Char) : Bool := c.toNat == 0xA5 || c.toNat == 0x203E

/-- Characters of ASCII that the Roman mode lacks. -/
def isAsciiOnly (c : Char) : Bool := c.toNat == 0x5C || c.toNat == 0x7E

/-- The mode in which a character is encoded, if it can be. An ASCII character of the Roman set
does not make the encoder leave that set. -/
def modeFor? (mode : Mode) (c : Char) : Option Mode :=
  if c.toNat < 0x80 then
    if mode = .roman ∧ !isAsciiOnly c then some .roman else some .ascii
  else if isRomanOnly c then some .roman
  else if (kanjiBytes? c).isSome then some .kanji
  else none

/-- What cannot be encoded is reported in a mode with one byte to a character. -/
def target (mode : Mode) (c : Char) : Mode :=
  match modeFor? mode c with
  | some m => m
  | none => if mode = .kanji then .ascii else mode

def switch? (mode next : Mode) : Option (Bytes × Mode) :=
  if mode = next then none else some (escape next, next)

def bytes? (mode : Mode) (c : Char) : Option Bytes :=
  if c.toNat < 0x80 then
    if isShiftControl c.toNat then none else some [.ofNat c.toNat]
  else if isRomanOnly c then some [if c.toNat = 0xA5 then 0x5C else 0x7E]
  else if mode = .kanji then kanjiBytes? c
  else none

abbrev encoder : Encoder where
  State := Mode
  start := .ascii
  shift? mode c := switch? mode (target mode c)
  bytes? := bytes?
  closing? mode := switch? mode .ascii
  refuses c := isShiftControl c.toNat
  wants _ _ := itemRoom
  busies _ _ := false

end LinkCharset.Iso2022Jp
