import LinkCharset.Event
import LinkCharset.Utf8

/-! # Charset labels

The check that a label is plausible, and the search for one behind `charset=` in a header or a
markup attribute. Whether a codec knows the label is not decided here. -/
namespace LinkCharset

/-- A result with the events that led to it. -/
abbrev Logged (α : Type) := α × List Event

def isLabelByte (b : UInt8) : Bool := isAscii b && !isBlank b

/-- A label is ASCII without blanks. -/
def isLabel (bytes : Bytes) : Bool := bytes.all isLabelByte

/-- Checks a label and logs one that is refused. -/
def checkLabelBytes (bytes : Bytes) : Logged Bool :=
  if isLabel bytes then (true, [])
  else (false, [.refusedLabel (String.ofList (Utf8.decodeLossy bytes))])

def checkLabel (label : String) : Logged Bool := checkLabelBytes (utf8 label)

/-- The key before a label, compared after folding case. -/
def charsetKey : Bytes := utf8 "charset="

def startsWithKey (bytes : Bytes) : Bool :=
  (bytes.take charsetKey.length).map foldCase == charsetKey

/-- What follows the leftmost key. -/
def afterKey? : Bytes → Option Bytes
  | [] => none
  | b :: rest =>
    if startsWithKey (b :: rest) then some ((b :: rest).drop charsetKey.length)
    else afterKey? rest

/-- The label runs to the next blank. One that is refused is not searched for again. -/
def parseCharsetBytes (bytes : Bytes) : Logged (Option String) :=
  match afterKey? bytes with
  | none => (none, [])
  | some value =>
    let label := value.takeWhile fun b => !isBlank b
    match checkLabelBytes label with
    | (true, events) => (some (asciiText label), events ++ [.parsedCharset (asciiText label)])
    | (false, events) => (none, events)

def parseCharset (text : String) : Logged (Option String) := parseCharsetBytes (utf8 text)

/-- Control characters other than tab have no place in a header. -/
def isHeaderByte (b : UInt8) : Bool := b == 0x09 || (0x20 ≤ b && b != 0x7F)

/-- The value of a header, which need not be text. -/
structure HeaderValue where
  bytes : Bytes
  isValid : bytes.all isHeaderByte = true

namespace HeaderValue

def ofBytes? (bytes : Bytes) : Option HeaderValue :=
  if h : bytes.all isHeaderByte = true then some ⟨bytes, h⟩ else none

def charset (v : HeaderValue) : Logged (Option String) := parseCharsetBytes v.bytes

end HeaderValue

end LinkCharset
