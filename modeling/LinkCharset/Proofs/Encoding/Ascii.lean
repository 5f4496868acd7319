import LinkCharset.Proofs.Codec.Web
import LinkCharset.Proofs.Encoding.SingleByte

/-! # ASCII is decoded as it is

Every encoding but UTF-16 and the replacement reads a byte of ASCII in front of a character as
ASCII. ISO-2022-JP does so as long as no sequence designates another mode: an escape byte that is
not followed by the rest of a designation, wherever it breaks off, is copied alone, as are the two
bytes that shift. -/
namespace LinkCharset

namespace Decoder

/-- ASCII is read as ASCII where a text starts, and reading goes on as it started. -/
def ReadsAscii (d : Decoder) : Prop :=
  ∀ b rest, isAscii b = true → d.read d.start b rest = .text [Char.ofNat b.toNat] 1 d.start

theorem ReadsAscii.made {d : Decoder} (reads : d.ReadsAscii) {input : Bytes}
    (ascii : ∀ b ∈ input, isAscii b = true) : d.made d.start input = Marked.converted input := by
  induction input with
  | nil => exact made_nil
  | cons b rest ih =>
    rcases List.forall_mem_cons.mp ascii with ⟨here, later⟩
    rw [made_of_text (reads b rest here), Utf8.encode_singleton, Utf8.encodeChar_of_ascii here]
    exact congrArg ((b, false) :: ·) (ih later)

end Decoder

theorem ShiftJis.readsAscii : ShiftJis.decoder.ReadsAscii := by
  intro b rest ascii
  have low : b ≤ 0x80 := by
    have low := Utf8.isAscii_iff.mp ascii
    rw [UInt8.le_iff_toNat_le]
    exact low.le
  exact if_pos low

theorem SingleByte.readsAscii (t : SingleByte) : t.decoder.ReadsAscii := by
  intro b rest ascii
  change t.read b rest = _
  rw [read, t.char?_of_ascii ascii]
  rfl

theorem Encoding.readsAscii {e : Encoding} (narrow : ∀ order, e ≠ .utf16 order)
    (readable : e ≠ .replacement) (fixed : e ≠ .iso2022Jp) : e.decoder.ReadsAscii := by
  cases e with
  | utf16 order => exact absurd rfl (narrow order)
  | replacement => exact absurd rfl readable
  | iso2022Jp => exact absurd rfl fixed
  | utf8 =>
    intro b rest ascii
    exact Utf8.read_of_char (Utf8.front_of_ascii (Utf8.isAscii_iff.mp ascii) rest)
  | singleByte t => exact t.readsAscii
  | shiftJis => exact ShiftJis.readsAscii
  | eucJp | gbk | gb18030 | big5 | eucKr => exact fun b rest ascii => if_pos ascii

namespace Iso2022Jp

def designations : List Bytes :=
  [[0x1B, 0x28, 0x42], [0x1B, 0x28, 0x4A], [0x1B, 0x28, 0x49], [0x1B, 0x24, 0x40],
    [0x1B, 0x24, 0x42]]

variable {b : UInt8} {rest input : Bytes}

theorem startsEscape_iff : startsEscape input = true ↔ ∃ escape ∈ designations, escape <+: input := by
  constructor
  · intro starts
    unfold startsEscape at starts
    split at starts
    · rename_i second third after
      refine ⟨[0x1B, second, third], ?_, after, rfl⟩
      unfold designated? at starts
      split_ifs at starts <;> simp_all [designations]
    · cases starts
  · simp only [designations, List.mem_cons, List.not_mem_nil, or_false]
    rintro ⟨escape, rfl | rfl | rfl | rfl | rfl, after, rfl⟩ <;> rfl

/-- An escape byte that starts no designation is bad alone, however far what follows goes on like
one. -/
theorem readEscape_of_undesignated (plain : startsEscape (0x1B :: rest) = false) (mode : Mode) :
    ∃ extra, readEscape ⟨mode, false⟩ rest = .malformed 1 extra ⟨mode, false⟩ := by
  match rest with
  | [] => exact ⟨0, rfl⟩
  | [second] =>
    simp only [readEscape]
    split_ifs
    · exact ⟨1, rfl⟩
    · exact ⟨0, rfl⟩
  | second :: third :: after =>
    have unknown : designated? second third = none := by
      rwa [startsEscape_eq, Option.isSome_eq_false_iff, Option.isNone_iff_eq_none] at plain
    simp only [readEscape, unknown]
    split_ifs
    · exact ⟨1, rfl⟩
    · exact ⟨0, rfl⟩

/-- In ASCII a byte comes out as it is, be it read or copied, and ASCII goes on behind it. -/
theorem made_of_undesignated (plain : startsEscape (b :: rest) = false) :
    ∃ isCopied, decoder.made ⟨.ascii, false⟩ (b :: rest) =
      (b, isCopied) :: decoder.made ⟨.ascii, false⟩ rest := by
  have copied {extra : ℕ}
      (reads : decoder.read ⟨.ascii, false⟩ b rest = .malformed 1 extra ⟨.ascii, false⟩) :
      decoder.made ⟨.ascii, false⟩ (b :: rest) = (b, true) :: decoder.made ⟨.ascii, false⟩ rest := by
    have resumed : decoder.resume 1 extra ⟨.ascii, false⟩ = ⟨.ascii, false⟩ := ite_self _
    rw [Decoder.made_of_malformed reads, resumed]
  by_cases escape : b = 0x1B
  · subst escape
    rcases readEscape_of_undesignated plain .ascii with ⟨extra, reads⟩
    exact ⟨true, copied ((read_escape _ rest).trans reads)⟩
  · cases has : single? .ascii b with
    | none =>
      have reads : read ⟨.ascii, false⟩ b rest = .malformed 1 0 ⟨.ascii, false⟩ := by
        simp [read, escape, has]
      exact ⟨true, copied reads⟩
    | some c =>
      have reads : read ⟨.ascii, false⟩ b rest = .text [c] 1 ⟨.ascii, false⟩ := by
        simp [read, escape, has]
      rw [single?] at has
      split_ifs at has with ascii
      cases has
      refine ⟨false, ?_⟩
      rw [Decoder.made_of_text reads, Utf8.encode_singleton, Utf8.encodeChar_of_ascii ascii.1]
      rfl

theorem bytes_made_of_undesignated (plain : ∀ escape ∈ designations, ¬ escape <:+: input) :
    (decoder.made ⟨.ascii, false⟩ input).bytes = input := by
  induction input with
  | nil => rw [Decoder.made_nil, Marked.bytes_nil]
  | cons b rest ih =>
    have here : startsEscape (b :: rest) = false := by
      rw [Bool.eq_false_iff, Ne, startsEscape_iff]
      rintro ⟨escape, listed, front⟩
      exact plain escape listed front.isInfix
    rcases made_of_undesignated here with ⟨isCopied, made⟩
    rw [made, Marked.bytes_cons, ih]
    intro escape listed inside
    exact plain escape listed (inside.trans (List.suffix_cons b rest).isInfix)

end Iso2022Jp

end LinkCharset
