import LinkCharset.Encoding.Pair
import LinkCharset.Proofs.Codec.Decoding
import LinkCharset.Proofs.Utf8

/-! # Reading within bounds

A way to read an item after its first byte is local if what it reads as text is settled by the bytes
of that text and is never empty, and if what it finds malformed lies in what it is given. -/
namespace LinkCharset

def IsLocal (f : Bytes → Reading Unit) : Prop :=
  ∀ rest, match f rest with
    | .text chars length _ =>
      (1 ≤ length ∧ length ≤ rest.length + 1) ∧ (Utf8.encode chars).length ≤ charRoom ∧
        chars ≠ [] ∧ ∀ others, f (rest.take (length - 1) ++ others) = f rest
    | .malformed bad extra _ => 1 ≤ bad ∧ bad + extra ≤ rest.length + 1
    | .overdue .. => False

theorem length_encode_char (c : Char) : (Utf8.encode [c]).length ≤ charRoom := by
  have := Utf8.length_encodeChar_le c
  rw [Utf8.encode_singleton, charRoom]
  omega

namespace IsLocal

theorem char (c : Char) : IsLocal fun _ => .char c 1 := by
  intro rest
  exact ⟨⟨le_rfl, by omega⟩, length_encode_char c, List.cons_ne_nil _ _, fun others => rfl⟩

theorem bad : IsLocal fun _ => .bad 1 := by
  intro rest
  exact ⟨le_rfl, by omega⟩

theorem ite {p : Prop} [Decidable p] {f g : Bytes → Reading Unit} (hf : IsLocal f)
    (hg : IsLocal g) : IsLocal fun rest => if p then f rest else g rest := by
  by_cases h : p
  · simpa only [if_pos h] using hf
  · simpa only [if_neg h] using hg

theorem pair {chars? : UInt8 → Option (List Char)}
    (small : ∀ trail chars, chars? trail = some chars →
      (Utf8.encode chars).length ≤ charRoom ∧ chars ≠ []) : IsLocal (Reading.pair chars?) := by
  intro rest
  cases rest with
  | nil => exact ⟨le_rfl, le_rfl⟩
  | cons trail rest =>
    cases has : chars? trail with
    | some chars =>
      rcases small trail chars has with ⟨short, some⟩
      simp only [Reading.pair, has]
      refine ⟨⟨by omega, by simp⟩, short, some, fun others => ?_⟩
      simp [has]
    | none =>
      simp only [Reading.pair, has, Reading.badTrail]
      cases ascii : isAscii trail
      · simp [Reading.bad]
      · simp [Reading.bad]

theorem charPair (char? : UInt8 → Option Char) :
    IsLocal (Reading.pair fun trail => (char? trail).map ([·])) := by
  apply pair
  intro trail chars has
  rcases Option.map_eq_some_iff.mp has with ⟨c, -, rfl⟩
  exact ⟨length_encode_char c, List.cons_ne_nil _ _⟩

/-- A decoder that reads every item locally cuts any input into pieces. -/
theorem sound {m : Margin} {read : UInt8 → Bytes → Reading Unit} {busies : Bool → UInt8 → Bool}
    (isLocal : ∀ b, IsLocal (read b)) (small : max m.ascii m.other < charRoom) :
    { Decoder.stateless m read with busies }.Sound (fun _ _ => True) fun _ => False where
  start := fun _ => trivial
  wants_lt busy b _ := m.wants_lt small busy b.toNat
  within {mode b rest} _ := by
    have bounds := isLocal b rest
    change Decoder.Within _ _ _ mode b rest (read b rest)
    cases reads : read b rest with
    | text chars length next =>
      rw [reads] at bounds
      rcases bounds with ⟨inside, short, some, alone⟩
      have whole := alone []
      rw [List.append_nil] at whole
      exact ⟨inside, short, ⟨next, whole⟩, some, trivial⟩
    | malformed bad extra next =>
      rw [reads] at bounds
      exact ⟨bounds, trivial⟩
    | overdue bad extra earlier next =>
      rw [reads] at bounds
      exact bounds

end IsLocal

end LinkCharset
