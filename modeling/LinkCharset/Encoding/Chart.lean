/-! # Charts

A chart assigns characters to positions. It is written as spans of consecutive code points at
consecutive positions, and read in both directions; where two positions hold one character, the
earlier span is the one that encoding uses. -/
namespace LinkCharset

/-- `length` code points from `first` on, at the positions from `position` on. -/
structure Span where
  position : Nat
  length : Nat
  first : Nat
  deriving DecidableEq, Repr

abbrev Chart := List Span

namespace Span

def codePoint? (s : Span) (position : Nat) : Option Nat :=
  if s.position ≤ position ∧ position < s.position + s.length then
    some (s.first + (position - s.position))
  else none

def position? (s : Span) (codePoint : Nat) : Option Nat :=
  if s.first ≤ codePoint ∧ codePoint < s.first + s.length then
    some (s.position + (codePoint - s.first))
  else none

end Span

namespace Chart

def char? (chart : Chart) (position : Nat) : Option Char :=
  (chart.findSome? (·.codePoint? position)).map Char.ofNat

def position? (chart : Chart) (c : Char) : Option Nat :=
  chart.findSome? (·.position? c.toNat)

end Chart

end LinkCharset
