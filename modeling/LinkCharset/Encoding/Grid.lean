/-! # Grids

A grid assigns characters to positions by listing them in rows, for character sets that follow no
order of code points. A blank is a position without a character. Where two positions hold one
character, encoding uses the first unless it says otherwise. -/
namespace LinkCharset

structure Grid where
  width : Nat
  rows : List (List Char)

namespace Grid

def ofText (width : Nat) (rows : List String) : Grid := ⟨width, rows.map String.toList⟩

def char? (g : Grid) (position : Nat) : Option Char := do
  let row ← g.rows[position / g.width]?
  let c ← row[position % g.width]?
  if c = ' ' then none else some c

/-- The first place of a character in a row, counted from `cell` on. -/
def placeFrom? (c : Char) (cell : Nat) : List Char → Option Nat
  | [] => none
  | x :: row => if x = c then some cell else placeFrom? c (cell + 1) row

/-- The positions of a character, the first one in each row that holds it. -/
def positionsFrom (width : Nat) (c : Char) (first : Nat) : List (List Char) → List Nat
  | [] => []
  | row :: rows =>
    match placeFrom? c first row with
    | some p => p :: positionsFrom width c (first + width) rows
    | none => positionsFrom width c (first + width) rows

/-- The first position of a character in rows that start at `first`. -/
def firstFrom? (width : Nat) (c : Char) (first : Nat) : List (List Char) → Option Nat
  | [] => none
  | row :: rows =>
    match placeFrom? c first row with
    | some p => some p
    | none => firstFrom? width c (first + width) rows

def position? (g : Grid) (c : Char) : Option Nat :=
  if c = ' ' then none else firstFrom? g.width c 0 g.rows

/-- The position of a character in the last row that holds it. -/
def lastPosition? (g : Grid) (c : Char) : Option Nat :=
  if c = ' ' then none else (positionsFrom g.width c 0 g.rows).getLast?

end Grid

end LinkCharset
