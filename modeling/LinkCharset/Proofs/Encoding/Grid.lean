import LinkCharset.Encoding.Jis
import Mathlib.Tactic

/-! # Places in grids

A character is found at a place within its grid, so that the two bytes for it stay within the range
of the rows and cells. -/
namespace LinkCharset

namespace Grid

variable {g : Grid} {c : Char} {p : ℕ}

theorem getElem?_of_placeFrom? {cell : ℕ} {row : List Char} (found : placeFrom? c cell row = some p) :
    ∃ k, p = cell + k ∧ row[k]? = some c := by
  induction row generalizing cell with
  | nil => cases found
  | cons x row ih =>
    rw [placeFrom?] at found
    split at found
    · rename_i same
      cases found
      exact ⟨0, rfl, by rw [same]; rfl⟩
    · rcases ih found with ⟨k, rfl, holds⟩
      exact ⟨k + 1, by omega, holds⟩

theorem getElem?_of_firstFrom? {width first : ℕ} {rows : List (List Char)}
    (short : ∀ row ∈ rows, row.length ≤ width) (found : firstFrom? width c first rows = some p) :
    ∃ number cell row, p = first + width * number + cell ∧ cell < width ∧
      rows[number]? = some row ∧ row[cell]? = some c := by
  induction rows generalizing first with
  | nil => cases found
  | cons row rows ih =>
    rw [firstFrom?] at found
    cases here : placeFrom? c first row with
    | some q =>
      rw [here] at found
      cases found
      rcases getElem?_of_placeFrom? here with ⟨cell, rfl, holds⟩
      have inside := (List.getElem?_eq_some_iff.mp holds).1
      have fits := short row List.mem_cons_self
      exact ⟨0, cell, row, by omega, by omega, rfl, holds⟩
    | none =>
      rw [here] at found
      rcases ih (fun row inside => short row (List.mem_cons_of_mem _ inside)) found with
        ⟨number, cell, row, rfl, inside, has, holds⟩
      exact ⟨number + 1, cell, row, by rw [Nat.mul_succ]; omega, inside, has, holds⟩

section Found

variable (short : ∀ row ∈ g.rows, row.length ≤ g.width) (found : g.position? c = some p)
include short found

theorem position?_lt : p < g.width * g.rows.length := by
  rw [position?] at found
  split_ifs at found
  rcases getElem?_of_firstFrom? short found with ⟨number, cell, row, rfl, inside, has, -⟩
  have behind : number + 1 ≤ g.rows.length := (List.getElem?_eq_some_iff.mp has).1
  have bound := Nat.mul_le_mul_left g.width behind
  rw [Nat.mul_succ] at bound
  omega

theorem char?_position? : g.char? p = some c := by
  rw [position?] at found
  split_ifs at found with blank
  rcases getElem?_of_firstFrom? short found with ⟨number, cell, row, rfl, inside, has, holds⟩
  have row_ : (g.width * number + cell) / g.width = number := by
    rw [Nat.mul_add_div (by omega), Nat.div_eq_of_lt inside, Nat.add_zero]
  have cell_ : (g.width * number + cell) % g.width = cell := by
    rw [Nat.mul_add_mod, Nat.mod_eq_of_lt inside]
  rw [Nat.zero_add]
  simp [char?, row_, cell_, has, holds, blank]

end Found

section Spelt

variable {width first : ℕ} {row : List Char} {rows : List String}

/-! A search goes through rows that are spelt out, from one to the next. -/

theorem firstFrom?_skip (lacks : placeFrom? c first row = none) :
    firstFrom? width c first ((String.ofList row :: rows).map String.toList) =
      firstFrom? width c (first + width) (rows.map String.toList) := by
  rw [List.map_cons, String.toList_ofList, firstFrom?, lacks]

theorem firstFrom?_here (found : placeFrom? c first row = some p) :
    firstFrom? width c first ((String.ofList row :: rows).map String.toList) = some p := by
  rw [List.map_cons, String.toList_ofList, firstFrom?, found]

end Spelt

end Grid

namespace Jis

theorem length_toList_ofList_le {row : List Char} (short : row.length ≤ 94) :
    (String.ofList row).toList.length ≤ 94 := by
  rwa [String.toList_ofList]

set_option maxRecDepth 4000 in
theorem length_row_le : ∀ row ∈ x0208Rows, row.toList.length ≤ 94 := by
  rw [x0208Rows]
  repeat refine List.forall_mem_cons.mpr ⟨length_toList_ofList_le (by decide), ?_⟩
  exact List.forall_mem_nil _

theorem length_row_x0208_le : ∀ row ∈ x0208.rows, row.length ≤ x0208.width := by
  intro row inside
  rw [x0208, Grid.ofText, List.mem_map] at inside
  rcases inside with ⟨text, inside, rfl⟩
  exact length_row_le text inside

theorem position?_x0208_lt {c : Char} {p : ℕ} (found : x0208.position? c = some p) :
    p < 94 * 94 := by
  have rows : x0208.rows.length = 94 := by
    rw [x0208, Grid.ofText, List.length_map]
    rfl
  have inside := Grid.position?_lt length_row_x0208_le found
  rw [rows] at inside
  exact inside

set_option maxRecDepth 4000 in
/-- The second character of the fourth row. -/
theorem position?_x0208_hiragana : x0208.position? 'あ' = some 283 := by
  rw [Grid.position?, if_neg (by decide), x0208, Grid.ofText, x0208Rows]
  refine (Grid.firstFrom?_skip (by decide)).trans ?_
  refine (Grid.firstFrom?_skip (by decide)).trans ?_
  refine (Grid.firstFrom?_skip (by decide)).trans ?_
  exact Grid.firstFrom?_here (by decide)

/-- The two bytes of a character lie in the range of ninety-four values that starts at the base. -/
theorem cellBytes?_between {base : UInt8} {c : Char} {bytes : List UInt8} (room : base.toNat ≤ 0xA2)
    (has : cellBytes? x0208 base c = some bytes) :
    ∀ b ∈ bytes, base.toNat ≤ b.toNat ∧ b.toNat ≤ base.toNat + 93 := by
  rcases Option.map_eq_some_iff.mp has with ⟨p, found, rfl⟩
  have inside := position?_x0208_lt found
  have byte {n : ℕ} (small : n ≤ 93) :
      base.toNat ≤ (UInt8.ofNat (base.toNat + n)).toNat ∧
        (UInt8.ofNat (base.toNat + n)).toNat ≤ base.toNat + 93 := by
    rw [UInt8.toNat_ofNat_of_lt' (by change _ < 256; omega)]
    omega
  intro b made
  rcases List.mem_pair.mp made with rfl | rfl
  · exact byte (by omega)
  · exact byte (by omega)

end Jis

end LinkCharset
