import LinkCharset.Encoding.SingleByte
import LinkCharset.Proofs.Utf8

/-! # Charts in both directions

The spans of the upper half of a single-byte encoding stand one behind another, so that at most one
of them says what is at a position. A position that is found for a character therefore holds it,
even where several positions do. -/
namespace LinkCharset

namespace Span

variable {s u : Span} {position codePoint : ℕ}

theorem codePoint?_eq_some_iff :
    s.codePoint? position = some codePoint ↔
      (s.position ≤ position ∧ position < s.position + s.length) ∧
        codePoint = s.first + (position - s.position) := by
  rw [codePoint?]
  split_ifs with inside
  · simp [inside, eq_comm]
  · simp [inside]

theorem position?_eq_some_iff :
    s.position? codePoint = some position ↔ s.codePoint? position = some codePoint := by
  rw [codePoint?_eq_some_iff, position?]
  split_ifs with inside
  · rw [Option.some.injEq]
    omega
  · simp only [false_iff]
    omega

def Before (s u : Span) : Prop := s.position + s.length ≤ u.position

instance : DecidableRel Before := fun s u =>
  inferInstanceAs (Decidable (s.position + s.length ≤ u.position))

instance : IsTrans Span Before where
  trans s u v first second := by
    unfold Before at *
    omega

theorem codePoint?_of_before (before : s.Before u) (here : u.codePoint? position = some codePoint) :
    s.codePoint? position = none := by
  rw [codePoint?_eq_some_iff] at here
  unfold Before at before
  rw [codePoint?, if_neg (by omega)]

end Span

namespace Chart

/-- The spans of an upper half: in order, within 128 positions, and of characters of the Basic
Multilingual Plane beyond ASCII. -/
structure IsUpperHalf (chart : Chart) : Prop where
  ordered : chart.Pairwise Span.Before
  inside : ∀ s ∈ chart, s.position + s.length ≤ 0x80
  beyond : ∀ s ∈ chart, 0x80 ≤ s.first ∧
    (s.first + s.length ≤ 0xD800 ∨ 0xDFFF < s.first ∧ s.first + s.length ≤ 0x10000)

/-- Order is seen from neighbours. -/
instance : DecidablePred IsUpperHalf := fun chart =>
  decidable_of_iff
    (chart.IsChain Span.Before ∧ (∀ s ∈ chart, s.position + s.length ≤ 0x80) ∧
      ∀ s ∈ chart, 0x80 ≤ s.first ∧
        (s.first + s.length ≤ 0xD800 ∨ 0xDFFF < s.first ∧ s.first + s.length ≤ 0x10000))
    ⟨fun ⟨chain, inside, beyond⟩ => ⟨List.isChain_iff_pairwise.mp chain, inside, beyond⟩,
      fun ⟨ordered, inside, beyond⟩ => ⟨List.isChain_iff_pairwise.mpr ordered, inside, beyond⟩⟩

variable {chart : Chart} {s : Span} {p n : ℕ} {c : Char}

/-- Of spans in order, the one that covers a position settles it. -/
theorem findSome?_codePoint? (ordered : chart.Pairwise Span.Before) (listed : s ∈ chart)
    (here : s.codePoint? p = some n) : chart.findSome? (·.codePoint? p) = some n := by
  induction chart with
  | nil => cases listed
  | cons u chart ih =>
    rcases List.pairwise_cons.mp ordered with ⟨before, ordered⟩
    rw [List.findSome?_cons]
    rcases List.mem_cons.mp listed with rfl | listed
    · rw [here]
    · rw [Span.codePoint?_of_before (before s listed) here]
      exact ih ordered listed

namespace IsUpperHalf

variable (upper : chart.IsUpperHalf)
include upper

theorem char?_eq_some_iff :
    chart.char? p = some c ↔ ∃ s ∈ chart, s.codePoint? p = some c.toNat := by
  rw [char?, Option.map_eq_some_iff]
  constructor
  · rintro ⟨n, found, rfl⟩
    rcases List.exists_of_findSome?_eq_some found with ⟨s, listed, here⟩
    have reached := Span.codePoint?_eq_some_iff.mp here
    have beyond := upper.beyond s listed
    have valid : n.isValidChar := by
      unfold Nat.isValidChar
      omega
    rw [Utf8.toNat_ofNat valid]
    exact ⟨s, listed, here⟩
  · rintro ⟨s, listed, here⟩
    exact ⟨_, findSome?_codePoint? upper.ordered listed here, Char.ofNat_toNat c⟩

theorem beyond_of_char? (has : chart.char? p = some c) : 0x80 ≤ c.toNat ∧ c.toNat < 0x10000 := by
  rcases upper.char?_eq_some_iff.mp has with ⟨s, listed, here⟩
  have reached := Span.codePoint?_eq_some_iff.mp here
  have beyond := upper.beyond s listed
  omega

theorem exists_position? (has : chart.char? p = some c) : ∃ q, chart.position? c = some q := by
  rcases upper.char?_eq_some_iff.mp has with ⟨s, listed, here⟩
  have found : (chart.position? c).isSome := by
    rw [position?, List.findSome?_isSome_iff]
    exact ⟨s, listed, by rw [Span.position?_eq_some_iff.mpr here]; rfl⟩
  exact Option.isSome_iff_exists.mp found

theorem char?_position? (found : chart.position? c = some p) : p < 0x80 ∧ chart.char? p = some c := by
  rcases List.exists_of_findSome?_eq_some found with ⟨s, listed, here⟩
  have back := Span.position?_eq_some_iff.mp here
  refine ⟨?_, upper.char?_eq_some_iff.mpr ⟨s, listed, back⟩⟩
  have reached := Span.codePoint?_eq_some_iff.mp back
  have inside := upper.inside s listed
  omega

end IsUpperHalf

end Chart

theorem SingleByte.isUpperHalf_chart (t : SingleByte) : t.chart.IsUpperHalf := by
  cases t <;> decide +kernel

end LinkCharset
