/-! # Punycode

Labels of any characters in the letters, digits and hyphen of ASCII: the ASCII characters of a label
as they are, then a number for each other character that says which it is and where it stands. -/
namespace LinkCharset.Punycode

def digit (d : Nat) : Char := Char.ofNat (if d < 26 then 0x61 + d else 0x30 + (d - 26))

def digitValue? (c : Char) : Option Nat :=
  let n := c.toNat
  if 0x61 ≤ n ∧ n ≤ 0x7A then some (n - 0x61)
  else if 0x41 ≤ n ∧ n ≤ 0x5A then some (n - 0x41)
  else if 0x30 ≤ n ∧ n ≤ 0x39 then some (n - 0x30 + 26)
  else none

/-- The value below which a digit is the last of its number. -/
def threshold (bias place : Nat) : Nat :=
  if place ≤ bias then 1 else if bias + 26 ≤ place then 26 else place - bias

/-- How often a large delta is scaled down before it bounds the next number. -/
def scale (delta : Nat) : Nat × Nat :=
  if 455 < delta then
    let (d, steps) := scale (delta / 35)
    (d, steps + 1)
  else (delta, 0)
termination_by delta
decreasing_by omega

/-- The bias for the next number, from the number before and the count of characters so far. -/
def adapt (delta count : Nat) (isFirst : Bool) : Nat :=
  let damped := if isFirst then delta / 700 else delta / 2
  let (d, steps) := scale (damped + damped / count)
  36 * steps + 36 * d / (d + 38)

def initialBias : Nat := 72

def initialCodePoint : Nat := 0x80

/-! ## Writing -/

/-- A number in digits, the least significant first. There are at most as many as it has bits. -/
def digits (bias : Nat) : Nat → (place q : Nat) → List Char
  | 0, _, _ => []
  | fuel + 1, place, q =>
    let t := threshold bias place
    if q < t then [digit q]
    else digit (t + (q - t) % (36 - t)) :: digits bias fuel (place + 36) ((q - t) / (36 - t))

structure Writer where
  output : List Char
  delta : Nat
  bias : Nat
  handled : Nat

/-- Passes a character of the label while characters of code point `n` are being written. -/
def Writer.pass (basicCount n : Nat) (w : Writer) (c : Char) : Writer :=
  if c.toNat < n then { w with delta := w.delta + 1 }
  else if c.toNat = n then
    { output := w.output ++ digits w.bias (w.delta + 1) 36 w.delta
      delta := 0
      bias := adapt w.delta (w.handled + 1) (w.handled == basicCount)
      handled := w.handled + 1 }
  else w

/-- Writes the characters of each code point in turn; `least` is the least not yet considered. -/
def writeAll (label : List Char) (basicCount : Nat) : (least : Nat) → List Nat → Writer → Writer
  | _, [], w => w
  | least, n :: rest, w =>
    let w := { w with delta := w.delta + (n - least) * (w.handled + 1) }
    let w := label.foldl (Writer.pass basicCount n) w
    writeAll label basicCount (n + 1) rest { w with delta := w.delta + 1 }

def isBasic (c : Char) : Bool := c.toNat < 0x80

def insertOrdered (n : Nat) : List Nat → List Nat
  | [] => [n]
  | m :: rest => if n < m then n :: m :: rest else if n = m then m :: rest
      else m :: insertOrdered n rest

/-- The code points of the characters that are not ASCII, in order and each once. -/
def extended (label : List Char) : List Nat :=
  ((label.filter fun c => !isBasic c).map Char.toNat).foldr insertOrdered []

def encode (label : List Char) : List Char :=
  let basic := label.filter isBasic
  let start : Writer := ⟨[], 0, initialBias, basic.length⟩
  let written := writeAll label basic.length initialCodePoint (extended label) start
  basic ++ (if basic.isEmpty then [] else ['-']) ++ written.output

/-! ## Reading -/

/-- Reads a number and gives its value with what follows it. -/
def number? (bias : Nat) : (place weight value : Nat) → List Char → Option (Nat × List Char)
  | _, _, _, [] => none
  | place, weight, value, c :: rest => do
    let d ← digitValue? c
    let t := threshold bias place
    let value := value + d * weight
    if d < t then some (value, rest)
    else number? bias (place + 36) (weight * (36 - t)) value rest

def isScalar (n : Nat) : Bool := n < 0xD800 || (0xDFFF < n && n < 0x110000)

/-- Inserts the characters that numbers stand for. Every number has a digit, so as many turns as
there are digits are enough. -/
def insertAll : (fuel bias n index : Nat) → (label digits : List Char) → Option (List Char)
  | _, _, _, _, label, [] => some label
  | 0, _, _, _, _, _ :: _ => none
  | fuel + 1, bias, n, index, label, c :: rest => do
    let (value, after) ← number? bias 36 1 0 (c :: rest)
    let count := label.length + 1
    let position := index + value
    let n := n + position / count
    if isScalar n then
      insertAll fuel (adapt value count (index == 0)) n (position % count + 1)
        (label.insertIdx (position % count) (Char.ofNat n)) after
    else none

/-- The ASCII characters before the last hyphen, and the digits behind it. A hyphen with nothing
before it is no separator. -/
def split (text : List Char) : List Char × List Char :=
  let tail := (text.reverse.takeWhile (· != '-')).reverse
  match (text.take (text.length - tail.length)).dropLast with
  | [] => ([], text)
  | basic => (basic, tail)

def decode? (text : List Char) : Option (List Char) :=
  let (basic, numbers) := split text
  if basic.all isBasic then insertAll numbers.length initialBias initialCodePoint 0 basic numbers
  else none

end LinkCharset.Punycode
