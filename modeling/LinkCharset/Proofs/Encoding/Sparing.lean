import LinkCharset.Proofs.Encoding.Chart
import LinkCharset.Proofs.Encoding.Decoders

/-! # Decoders that make little of much

A byte that stands for a character by itself stands for one of the Basic Multilingual Plane, which
takes three bytes of UTF-8. What takes four is read from two bytes or more. So no decoder writes
more than three bytes for each one it reads, and four bytes of room hold whatever comes next. -/
namespace LinkCharset

/-- A text read from a sequence of some length is short: four bytes at most, and three of each one.
-/
def Reading.IsSparing {Mode : Type} : Reading Mode → Prop
  | .text chars length _ =>
    (Utf8.encode chars).length ≤ 4 ∧ (Utf8.encode chars).length ≤ 3 * length
  | _ => True

def Decoder.IsSparing (d : Decoder) : Prop := ∀ mode b rest, (d.read mode b rest).IsSparing

theorem Utf8.length_encodeChar_le_three {c : Char} (basic : c.toNat < 0x10000) :
    (encodeChar c).length ≤ 3 := by
  unfold encodeChar
  dsimp only
  split_ifs <;> simp

theorem toNat_ofNat_lt {n : ℕ} (basic : n < 0x10000) : (Char.ofNat n).toNat < 0x10000 := by
  by_cases valid : n.isValidChar
  · rwa [Utf8.toNat_ofNat valid]
  · rw [Char.ofNat, dif_neg valid]
    decide

namespace Reading.IsSparing

variable {Mode : Type} {next : Mode}

theorem wide (c : Char) {length : ℕ} (some : 2 ≤ length) :
    (Reading.text [c] length next).IsSparing := by
  have small := Utf8.length_encodeChar_le c
  rw [IsSparing, Utf8.encode_singleton]
  omega

theorem narrow {c : Char} (basic : c.toNat < 0x10000) : (Reading.text [c] 1 next).IsSparing := by
  have small := Utf8.length_encodeChar_le_three basic
  rw [IsSparing, Utf8.encode_singleton]
  omega

theorem byte (b : UInt8) : (Reading.char (Char.ofNat b.toNat) 1).IsSparing :=
  narrow (toNat_ofNat_lt (b.toNat_lt.trans (by decide)))

theorem badTrail (length : ℕ) (trail : UInt8) : (Reading.badTrail length trail).IsSparing := by
  rw [Reading.badTrail]
  split_ifs <;> trivial

theorem pair {chars? : UInt8 → Option (List Char)}
    (small : ∀ trail chars, chars? trail = some chars → (Utf8.encode chars).length ≤ 4)
    (rest : Bytes) : (Reading.pair chars? rest).IsSparing := by
  cases rest with
  | nil => trivial
  | cons trail rest =>
    rw [Reading.pair]
    cases has : chars? trail with
    | some chars => exact ⟨small trail chars has, (small trail chars has).trans (by decide)⟩
    | none => exact badTrail 1 trail

theorem charPair (char? : UInt8 → Option Char) (rest : Bytes) :
    (Reading.pair (fun trail => (char? trail).map ([·])) rest).IsSparing := by
  refine pair (fun trail chars has => ?_) rest
  rcases Option.map_eq_some_iff.mp has with ⟨c, -, rfl⟩
  rw [Utf8.encode_singleton]
  exact Utf8.length_encodeChar_le c

end Reading.IsSparing

open Reading.IsSparing

theorem Jis.toNat_halfWidth_lt (b : UInt8) : (Jis.halfWidth b).toNat < 0x10000 := by
  have small := b.toNat_lt
  exact toNat_ofNat_lt (by omega)

theorem SingleByte.isSparing_decoder (t : SingleByte) : t.decoder.IsSparing := by
  intro mode b rest
  change (t.read b rest).IsSparing
  rw [SingleByte.read]
  cases has : t.char? b with
  | none => trivial
  | some c =>
    rw [SingleByte.char?] at has
    split_ifs at has
    · cases has
      exact byte b
    · exact narrow (t.isUpperHalf_chart.beyond_of_char? has).2

theorem ShiftJis.isSparing_decoder : ShiftJis.decoder.IsSparing := by
  intro mode b rest
  change (ShiftJis.read b rest).IsSparing
  unfold ShiftJis.read
  split_ifs
  · exact byte b
  · exact narrow (Jis.toNat_halfWidth_lt b)
  · exact charPair _ rest
  · trivial

theorem EucKr.isSparing_decoder : EucKr.decoder.IsSparing := by
  intro mode b rest
  change (EucKr.read b rest).IsSparing
  unfold EucKr.read
  split_ifs
  · exact byte b
  · exact charPair _ rest
  · trivial

namespace EucJp

theorem isSparing_readTriple (rest : Bytes) : (readTriple rest).IsSparing := by
  unfold readTriple
  split
  · trivial
  · split_ifs
    · trivial
    · exact badTrail _ _
  · split_ifs
    · exact badTrail _ _
    · exact badTrail _ _
    · split
      · exact wide _ (by decide)
      · trivial

theorem isSparing_decoder : EucJp.decoder.IsSparing := by
  intro mode b rest
  change (EucJp.read b rest).IsSparing
  unfold EucJp.read
  split_ifs
  · exact byte b
  · exact charPair _ rest
  · exact isSparing_readTriple rest
  · exact charPair _ rest
  · trivial

end EucJp

namespace Gb

theorem isSparing_readGroup (first second : UInt8) (rest : Bytes) :
    (readGroup first second rest).IsSparing := by
  unfold readGroup
  split
  · trivial
  · split_ifs <;> trivial
  · split_ifs
    · trivial
    · trivial
    · split
      · exact wide _ (by decide)
      · trivial

theorem isSparing_decoder : Gb.decoder.IsSparing := by
  intro mode b rest
  change (Gb.read b rest).IsSparing
  unfold Gb.read
  split_ifs
  · exact byte b
  · exact narrow (toNat_ofNat_lt (by decide))
  · unfold readLead
    split
    · trivial
    · split_ifs
      · exact isSparing_readGroup _ _ _
      · exact charPair _ _
  · trivial

end Gb

namespace Big5

theorem length_pair?_le {lead trail : UInt8} {chars : List Char} (has : pair? lead trail = some chars) :
    (Utf8.encode chars).length ≤ 4 := by
  rw [pair?] at has
  split_ifs at has
  dsimp only at has
  cases composed : composed? (position lead trail) with
  | some composition =>
    simp only [composed, Option.some.injEq] at has
    subst has
    unfold composed? at composed
    split at composed <;> cases composed <;> decide
  | none =>
    simp only [composed] at has
    rcases Option.map_eq_some_iff.mp has with ⟨c, -, rfl⟩
    rw [Utf8.encode_singleton]
    exact Utf8.length_encodeChar_le c

theorem isSparing_decoder : Big5.decoder.IsSparing := by
  intro mode b rest
  change (Big5.read b rest).IsSparing
  unfold Big5.read
  split_ifs
  · exact byte b
  · exact pair (fun _ _ => length_pair?_le) rest
  · trivial

end Big5

theorem Utf16.isSparing_decoder (order : Order) : (Utf16.decoder order).IsSparing := by
  intro mode b rest
  change (Utf16.read order b rest).IsSparing
  unfold Utf16.read
  split
  · trivial
  · dsimp only
    split_ifs
    · unfold readLow
      split
      · trivial
      · trivial
      · dsimp only
        split_ifs
        · exact wide _ (by decide)
        · trivial
    · trivial
    · exact wide _ (by decide)

namespace Utf8

/-- Each byte of a character is one of those it is read from. -/
theorem isSparing_of_front {lead : UInt8} {rest : Bytes} {c : Char} {length : ℕ} {next : Range}
    (reads : front lead rest = .char c length) : (Reading.text [c] length next).IsSparing := by
  have bytes := congrArg List.length (encodeChar_of_front reads)
  rcases front_char reads with ⟨inside, -⟩
  have small := length_encodeChar_le c
  rw [Reading.IsSparing, encode_singleton]
  rw [List.length_cons, List.length_take] at bytes
  omega

theorem isSparing_decoder : Utf8.decoder.IsSparing := by
  intro mode lead rest
  change (Utf8.read mode lead rest).IsSparing
  unfold Utf8.read
  split
  · rename_i reads
    exact isSparing_of_front reads
  · unfold readIllFormed
    split
    · trivial
    · trivial
    · dsimp only
      split
      · trivial
      · split
        · trivial
        · rename_i reads
          -- at least one byte follows a lead byte that owes some
          have length := (follow_char reads).1
          rw [List.length_cons] at length
          exact wide _ (by omega)

end Utf8

namespace Iso2022Jp

theorem toNat_single?_lt {mode : Mode} {b : UInt8} {c : Char} (has : single? mode b = some c) :
    c.toNat < 0x10000 := by
  have small := b.toNat_lt
  unfold single? at has
  split at has
  · split_ifs at has
    exact Option.some.inj has ▸ toNat_ofNat_lt (by omega)
  · split_ifs at has <;> exact Option.some.inj has ▸ toNat_ofNat_lt (by omega)
  · split_ifs at has
    exact Option.some.inj has ▸ Jis.toNat_halfWidth_lt _
  · cases has

theorem isSparing_decoder : Iso2022Jp.decoder.IsSparing := by
  intro m b rest
  change (Iso2022Jp.read m b rest).IsSparing
  unfold Iso2022Jp.read
  split_ifs
  · unfold readEscape
    split
    · split_ifs
      · split
        · split
          · unfold enter
            split_ifs
            · trivial
            · trivial
            · exact ⟨Nat.zero_le _, Nat.zero_le _⟩
          · trivial
        · trivial
      · trivial
    · trivial
  · unfold readPair
    split
    · trivial
    · split_ifs
      · trivial
      · split
        · exact wide _ (by decide)
        · trivial
      · trivial
  · trivial
  · split
    · rename_i has
      exact narrow (toNat_single?_lt has)
    · trivial

end Iso2022Jp

theorem Replacement.isSparing_decoder : Replacement.decoder.IsSparing := by
  intro mode b rest
  cases mode with
  | fresh => trivial
  | spent => exact ⟨Nat.zero_le _, Nat.zero_le _⟩

theorem Encoding.decoder_isSparing : ∀ e : Encoding, e.decoder.IsSparing
  | utf8 => Utf8.isSparing_decoder
  | utf16 order => Utf16.isSparing_decoder order
  | replacement => Replacement.isSparing_decoder
  | singleByte table => table.isSparing_decoder
  | shiftJis => ShiftJis.isSparing_decoder
  | eucJp => EucJp.isSparing_decoder
  | iso2022Jp => Iso2022Jp.isSparing_decoder
  | gbk => Gb.isSparing_decoder
  | gb18030 => Gb.isSparing_decoder
  | big5 => Big5.isSparing_decoder
  | eucKr => EucKr.isSparing_decoder

end LinkCharset
