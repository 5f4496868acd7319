import LinkCharset.Idn.Normalization

/-! # Labels in two directions

The classes of characters by direction, and the rule that a label obeys in a domain with
right-to-left text. -/
namespace LinkCharset.Idn

inductive BidiClass where
  | left
  | right
  | arabicLetter
  | arabicNumber
  | europeanNumber
  | europeanSeparator
  | europeanTerminator
  | commonSeparator
  | nonspacingMark
  | boundaryNeutral
  | otherNeutral
  | space
  deriving DecidableEq, Repr

/-- Closed ranges of code points and their class. What is neither listed nor a mark runs from left
to right. -/
def bidiRanges : List (Nat × Nat × BidiClass) :=
  [(0x00, 0x08, .boundaryNeutral), (0x09, 0x0D, .space), (0x0E, 0x1B, .boundaryNeutral),
   (0x1C, 0x20, .space), (0x21, 0x22, .otherNeutral), (0x23, 0x25, .europeanTerminator),
   (0x26, 0x2A, .otherNeutral), (0x2B, 0x2B, .europeanSeparator), (0x2C, 0x2C, .commonSeparator),
   (0x2D, 0x2D, .europeanSeparator), (0x2E, 0x2F, .commonSeparator),
   (0x30, 0x39, .europeanNumber), (0x3A, 0x3A, .commonSeparator), (0x3B, 0x40, .otherNeutral),
   (0x5B, 0x60, .otherNeutral), (0x7B, 0x7E, .otherNeutral), (0x7F, 0x7F, .boundaryNeutral),
   (0xA1, 0xA1, .otherNeutral), (0xA2, 0xA5, .europeanTerminator), (0xA6, 0xAE, .otherNeutral),
   (0xB0, 0xB1, .europeanTerminator), (0xB6, 0xD7, .otherNeutral), (0xF7, 0xF7, .otherNeutral),
   (0x2C6, 0x2C7, .otherNeutral), (0x5BE, 0x5BE, .right), (0x5C0, 0x5C0, .right),
   (0x5C3, 0x5C3, .right), (0x5D0, 0x5EA, .right), (0x5F0, 0x5F4, .right),
   (0x60C, 0x60C, .commonSeparator), (0x61B, 0x64A, .arabicLetter), (0x660, 0x663, .arabicNumber),
   (0x679, 0x6D2, .arabicLetter), (0xE3F, 0xE3F, .europeanTerminator),
   (0x200C, 0x200D, .boundaryNeutral), (0x2013, 0x2022, .otherNeutral),
   (0x2030, 0x2032, .europeanTerminator), (0x2039, 0x2043, .otherNeutral),
   (0x2044, 0x2044, .commonSeparator), (0x2045, 0x205E, .otherNeutral),
   (0x20A0, 0x20AF, .europeanTerminator), (0x2190, 0x2211, .otherNeutral),
   (0x2212, 0x2212, .europeanSeparator), (0x2213, 0x2213, .europeanTerminator),
   (0x2214, 0x2321, .otherNeutral), (0x241B, 0x241B, .otherNeutral),
   (0x2442, 0x2442, .otherNeutral), (0x2500, 0x2665, .otherNeutral),
   (0x3001, 0x3001, .otherNeutral), (0x300C, 0x3015, .otherNeutral),
   (0x30FB, 0x30FB, .otherNeutral), (0xFFFD, 0xFFFD, .otherNeutral),
   (0x1F3FD, 0x1F600, .otherNeutral)]

def bidiClass (c : Char) : BidiClass :=
  match bidiRanges.find? fun r => r.1 ≤ c.toNat && c.toNat ≤ r.2.1 with
  | some (_, _, k) => k
  | none => if Normalization.isMark c then .nonspacingMark else .left

namespace BidiClass

def isRightToLeft (k : BidiClass) : Bool := k == right || k == arabicLetter || k == arabicNumber

/-- What both kinds of label may hold besides letters. -/
def isNeutral : BidiClass → Bool
  | europeanNumber | europeanSeparator | europeanTerminator | commonSeparator => true
  | nonspacingMark | boundaryNeutral | otherNeutral => true
  | _ => false

end BidiClass

/-- The class of the last character that is not a mark. -/
def lastStrong? (ks : List BidiClass) : Option BidiClass :=
  (ks.reverse.dropWhile (· == .nonspacingMark)).head?

def obeysRightToLeft (ks : List BidiClass) : Bool :=
  ks.all (fun k => k.isRightToLeft || k.isNeutral) &&
  (match lastStrong? ks with
   | some k => k.isRightToLeft || k == .europeanNumber
   | none => false) &&
  !(ks.contains .europeanNumber && ks.contains .arabicNumber)

def obeysLeftToRight (ks : List BidiClass) : Bool :=
  ks.all (fun k => k == .left || k.isNeutral) &&
  (match lastStrong? ks with
   | some k => k == .left || k == .europeanNumber
   | none => false)

/-- The rule for a label in a domain with right-to-left text. An empty label obeys it. -/
def obeysBidiRule (label : List Char) : Bool :=
  match label.map bidiClass with
  | [] => true
  | .left :: ks => obeysLeftToRight (.left :: ks)
  | .right :: ks => obeysRightToLeft (.right :: ks)
  | .arabicLetter :: ks => obeysRightToLeft (.arabicLetter :: ks)
  | _ => false

def hasRightToLeft (label : List Char) : Bool := label.any fun c => (bidiClass c).isRightToLeft

end LinkCharset.Idn
