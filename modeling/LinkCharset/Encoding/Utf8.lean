import LinkCharset.Codec.Decoder
import LinkCharset.Codec.Encoder

/-! # UTF-8

Encoding writes each character as it is. In decoding, malformed sequences are the maximal subparts.
A lead byte that the input ends behind leaves its mark: the range it narrows stays narrow until the
next byte is held against it. -/
namespace LinkCharset.Utf8

/-- The range of a byte that continues a character, where no lead byte narrows it. -/
def anyContinuation : Range := (0x80, 0xBF)

/-- The range of the byte after a lead, given the one that was left behind. Four lead bytes replace
the bound that they narrow. -/
def asked (left : Range) (lead : UInt8) : Range :=
  (if lead = 0xE0 then 0xA0 else if lead = 0xF0 then 0x90 else left.1,
    if lead = 0xED then 0x9F else if lead = 0xF4 then 0x8F else left.2)

/-- Reads what is known to be no character. -/
def readIllFormed (left : Range) (lead : UInt8) (rest : Bytes) : Reading Range :=
  match owed lead with
  | none | some [] => .malformed 1 0 left
  | some (_ :: others) =>
    let range := asked left lead
    match rest with
    | [] => .malformed 1 0 range
    | _ =>
      match follow (payload lead) 1 (range :: others) rest with
      | .illFormed length _ => .malformed length 0 anyContinuation
      | .char c length => .text [c] length anyContinuation

def read (left : Range) (lead : UInt8) (rest : Bytes) : Reading Range :=
  match front lead rest with
  | .char c length => .text [c] length left
  | .illFormed .. => readIllFormed left lead rest

/-- A character waits for its own room only, and what is none for the room of the longest character. -/
def wants (_ : Bool) (lead : UInt8) (rest : Bytes) : Nat :=
  match front lead rest with
  | .char _ length => length
  | .illFormed .. => 4

abbrev decoder : Decoder := ⟨Range, anyContinuation, read, wants, fun _ _ => false⟩

def encoder : Encoder := .stateless (.even 0) fun c => some (encodeChar c)

end LinkCharset.Utf8
