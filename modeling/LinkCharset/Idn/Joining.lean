import LinkCharset.Idn.Normalization

/-! # Joiners in labels

The two joiners of zero width stand only where they change how a word is written. -/
namespace LinkCharset.Idn

/-- The mark that suppresses the vowel of a consonant. -/
def isVirama (c : Char) : Bool := Normalization.combiningClass c == 9

/-- How the letters of cursive scripts connect. -/
inductive JoiningType where
  | dual
  | right
  | transparent
  | none
  deriving DecidableEq, Repr

def dualJoining : List (Nat × Nat) :=
  [(0x0620, 0x0620), (0x0626, 0x0626), (0x0628, 0x0628), (0x062A, 0x062E), (0x0633, 0x063F),
   (0x0641, 0x0647), (0x0649, 0x064A), (0x0678, 0x0687), (0x069A, 0x06BF), (0x06C1, 0x06C2),
   (0x06CC, 0x06CC), (0x06CE, 0x06CE), (0x06D0, 0x06D1)]

def rightJoining : List (Nat × Nat) :=
  [(0x0622, 0x0625), (0x0627, 0x0627), (0x0629, 0x0629), (0x062F, 0x0632), (0x0648, 0x0648),
   (0x0671, 0x0673), (0x0675, 0x0677), (0x0688, 0x0699), (0x06C0, 0x06C0), (0x06C3, 0x06CB),
   (0x06CD, 0x06CD), (0x06CF, 0x06CF), (0x06D2, 0x06D3), (0x06D5, 0x06D5)]

def joiningType (c : Char) : JoiningType :=
  let isIn (rs : List (Nat × Nat)) : Bool := rs.any fun r => r.1 ≤ c.toNat && c.toNat ≤ r.2
  if Normalization.isMark c then .transparent
  else if isIn dualJoining then .dual
  else if isIn rightJoining then .right
  else .none

/-- The joining type of the nearest character that is not transparent. -/
def nearestJoining? (cs : List Char) : Option JoiningType :=
  ((cs.map joiningType).dropWhile (· == .transparent)).head?

/-- A non-joiner may separate two letters that would connect. -/
def breaksConnection (before after : List Char) : Bool :=
  nearestJoining? before == some .dual &&
  (nearestJoining? after == some .dual || nearestJoining? after == some .right)

/-- Checks the joiners of a label whose characters so far are `before`, the last one first. -/
def joinersFrom (before : List Char) : List Char → Bool
  | [] => true
  | c :: rest =>
    let isAfterVirama := before.head?.any isVirama
    let isAllowed :=
      if c.toNat = 0x200C then isAfterVirama || breaksConnection before rest
      else if c.toNat = 0x200D then isAfterVirama
      else true
    isAllowed && joinersFrom (c :: before) rest

def hasValidJoiners (label : List Char) : Bool := joinersFrom [] label

end LinkCharset.Idn
