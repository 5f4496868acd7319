import LinkCharset.Idn.Normalization.Table

/-! # Canonical composition

The normal form in which characters are composed as far as they can be: full decomposition, marks
in the order of their classes, and recomposition. Hangul syllables follow a formula; other
characters are listed. -/
namespace LinkCharset.Normalization

/-- The combining class of a mark; every other character starts a sequence and has class 0. -/
def combiningClass (c : Char) : Nat :=
  match combiningClasses.find? fun r => r.1 ≤ c.toNat && c.toNat ≤ r.2.1 with
  | some (_, _, k) => k
  | none => 0

def isMark (c : Char) : Bool := marks.any fun r => r.1 ≤ c.toNat && c.toNat ≤ r.2

/-! ## Hangul -/

def syllableBase : Nat := 0xAC00
def leadBase : Nat := 0x1100
def vowelBase : Nat := 0x1161
def tailBase : Nat := 0x11A7

/-- Nineteen leads, twenty-one vowels and twenty-seven tails or none. -/
def isLead (n : Nat) : Bool := leadBase ≤ n && n < leadBase + 19
def isVowel (n : Nat) : Bool := vowelBase ≤ n && n < vowelBase + 21
def isTail (n : Nat) : Bool := tailBase < n && n < tailBase + 28
def isSyllable (n : Nat) : Bool := syllableBase ≤ n && n < syllableBase + 11172

def decomposeSyllable (n : Nat) : List Char :=
  let index := n - syllableBase
  let pair := [Char.ofNat (leadBase + index / 588), Char.ofNat (vowelBase + index % 588 / 28)]
  if index % 28 = 0 then pair else pair ++ [Char.ofNat (tailBase + index % 28)]

def composeHangul? (first second : Nat) : Option Char :=
  if isLead first && isVowel second then
    some (Char.ofNat (syllableBase + 588 * (first - leadBase) + 28 * (second - vowelBase)))
  else if isSyllable first && (first - syllableBase) % 28 == 0 && isTail second then
    some (Char.ofNat (first + (second - tailBase)))
  else none

/-! ## The normal form -/

/-- Takes a character apart once. -/
def decomposeOnce (c : Char) : List Char :=
  if isSyllable c.toNat then decomposeSyllable c.toNat
  else
    match compositions.find? (·.composed == c.toNat) with
    | some p => [Char.ofNat p.first, Char.ofNat p.second]
    | none => [c]

/-- No listed character is made of more than three. -/
def decomposeChar (c : Char) : List Char := (decomposeOnce c).flatMap decomposeOnce

def composePair? (first second : Char) : Option Char :=
  match composeHangul? first.toNat second.toNat with
  | some c => some c
  | none =>
    (compositions.find? fun p => p.first == first.toNat && p.second == second.toNat).map
      fun p => Char.ofNat p.composed

/-- Puts a character before others, behind the marks of a lower class that follow it. -/
def insertMark (c : Char) : List Char → List Char
  | [] => [c]
  | d :: rest =>
    if combiningClass c ≠ 0 ∧ combiningClass d ≠ 0 ∧ combiningClass d < combiningClass c then
      d :: insertMark c rest
    else c :: d :: rest

def reorder (cs : List Char) : List Char := cs.foldr insertMark []

/-- A sequence under composition: its starter, and the marks after it that stay, last one first. -/
structure Cluster where
  starter : Char
  marks : List Char

def Cluster.chars (k : Cluster) : List Char := k.starter :: k.marks.reverse

/-- A mark of the same or a higher class in between keeps a character from its starter. -/
def Cluster.isBlocked (k : Cluster) (c : Char) : Bool :=
  match k.marks with
  | [] => false
  | last :: _ => combiningClass c ≤ combiningClass last

/-- Composes what follows into a cluster as far as it goes, then starts the next one. -/
def composeFrom (k : Cluster) : List Char → List Char
  | [] => k.chars
  | c :: rest =>
    match if k.isBlocked c then none else composePair? k.starter c with
    | some composed => composeFrom { k with starter := composed } rest
    | none =>
      if combiningClass c = 0 then k.chars ++ composeFrom ⟨c, []⟩ rest
      else composeFrom { k with marks := c :: k.marks } rest

def compose : List Char → List Char
  | [] => []
  | c :: rest => composeFrom ⟨c, []⟩ rest

/-- The composed normal form. -/
def nfc (cs : List Char) : List Char := compose (reorder (cs.flatMap decomposeChar))

end LinkCharset.Normalization
