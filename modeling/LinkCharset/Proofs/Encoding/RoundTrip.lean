import LinkCharset.Proofs.Codec.Piecewise
import LinkCharset.Proofs.Encoding.Escapes
import LinkCharset.Proofs.Encoding.Stream

/-! # ISO-2022-JP there and back

The encoder writes a character behind a shift to its mode, and copies stray bytes and characters
that it cannot encode. The decoder follows: before each piece it is in the mode of the encoder,
since none of what is copied is ASCII, so that it is met byte by byte and leaves the mode as it is.
-/
namespace LinkCharset

namespace Iso2022Jp

section Char

variable {mode : Mode} {c : Char} {bytes : Bytes}

theorem single?_of_ascii (ascii : c.toNat < 0x80) (plain : isShiftControl c.toNat = false) :
    single? .ascii (.ofNat c.toNat) = some c ∧
      (isAsciiOnly c = false → single? .roman (.ofNat c.toNat) = some c) := by
  have value : (UInt8.ofNat c.toNat).toNat = c.toNat :=
    UInt8.toNat_ofNat_of_lt' (by change _ < 256; omega)
  have low : isAscii (.ofNat c.toNat) = true := by
    rwa [Utf8.isAscii_iff, value]
  have ne {b : UInt8} (other : c.toNat ≠ b.toNat) : UInt8.ofNat c.toNat ≠ b := by
    rintro rfl
    exact other value.symm
  constructor
  · simp [single?, low, value, plain]
  · intro common
    simp only [isAsciiOnly, Bool.or_eq_false_iff, beq_eq_false_iff_ne] at common
    have noBackslash : UInt8.ofNat c.toNat ≠ 0x5C := ne common.1
    have noTilde : UInt8.ofNat c.toNat ≠ 0x7E := ne common.2
    simp [single?, noBackslash, noTilde, low, value, plain]

theorem char?_of_kanjiBytes? (narrow : Jis.isHalfWidthKatakana c = false) (minus : c.toNat ≠ 0x2212)
    (has : kanjiBytes? c = some bytes) : char? .kanji bytes = some c := by
  have same : widen c = c := by
    rw [widen, if_neg (by simp [narrow]), Jis.unifyMinus, if_neg minus]
  rw [kanjiBytes?, same] at has
  rcases Option.map_eq_some_iff.mp has with ⟨p, found, rfl⟩
  have inside := Jis.position?_x0208_lt found
  have byte {n : ℕ} (small : n < 94) : (UInt8.ofNat ((0x21 : UInt8).toNat + n)).toNat = 0x21 + n :=
    UInt8.toNat_ofNat_of_lt' (by change 0x21 + n < 256; omega)
  have row := byte (n := p / 94) (by omega)
  have cell := byte (n := p % 94) (by omega)
  have place : 94 * (0x21 + p / 94 - 0x21) + (0x21 + p % 94 - 0x21) = p := by omega
  rw [char?, if_pos ⟨rfl, isCell_iff.mpr (by omega), isCell_iff.mpr (by omega)⟩, Jis.cell?, row, cell]
  exact (congrArg _ place).trans (Grid.char?_position? Jis.length_row_x0208_le found)

theorem char?_of_bytes? (narrow : Jis.isHalfWidthKatakana c = false) (minus : c.toNat ≠ 0x2212)
    (has : bytes? (target mode c) c = some bytes) : char? (target mode c) bytes = some c := by
  rw [bytes?] at has
  by_cases ascii : c.toNat < 0x80
  · rw [if_pos ascii] at has
    split_ifs at has with control
    cases has
    rcases single?_of_ascii ascii (by simpa using control) with ⟨inAscii, inRoman⟩
    rw [target_of_ascii ascii]
    split_ifs with stays
    · exact inRoman (by simpa using stays.2)
    · exact inAscii
  by_cases roman : isRomanOnly c
  · have leads : target mode c = .roman := by simp only [target, modeFor?, if_neg ascii, if_pos roman]
    rw [if_neg ascii, if_pos roman] at has
    cases has
    rw [leads]
    rcases (Bool.or_eq_true _ _).mp roman with yen | overline
    · obtain rfl : c = '¥' := by rw [← Char.ofNat_toNat c, eq_of_beq yen]
      rfl
    · obtain rfl : c = '‾' := by rw [← Char.ofNat_toNat c, eq_of_beq overline]
      rfl
  · rw [if_neg ascii, if_neg roman] at has
    split_ifs at has with kanji
    rw [kanji]
    exact char?_of_kanjiBytes? narrow minus has

end Char

section Decoding

variable {after : Bytes}

theorem head_append_ne_escape {bytes : Bytes} (nonempty : bytes ≠ []) (plain : ∀ b ∈ bytes, b ≠ 0x1B)
    (rest : Bytes) : (bytes ++ rest).head? ≠ some 0x1B := by
  cases bytes with
  | nil => exact absurd rfl nonempty
  | cons b bytes => simpa using plain b List.mem_cons_self

theorem made_strays {bytes : Bytes} (high : ∀ b ∈ bytes, 0x80 ≤ b.toNat) (mode : Mode)
    (rest : Bytes) :
    decoder.made ⟨mode, false⟩ (bytes ++ rest) =
      .verbatim bytes ++ decoder.made ⟨mode, false⟩ rest := by
  induction bytes with
  | nil => rfl
  | cons b bytes ih =>
    rcases List.forall_mem_cons.mp high with ⟨here, later⟩
    rw [List.cons_append, made_stray here, ih later]
    rfl

theorem made_escape (plain : after.head? ≠ some 0x1B) (mode next : Mode) :
    decoder.made ⟨mode, false⟩ (escape next ++ after) = decoder.made ⟨next, false⟩ after := by
  cases next <;> exact made_shift rfl plain mode

/-- A shift of the encoder leads the decoder to the mode of the character. -/
theorem made_shifted (plain : after.head? ≠ some 0x1B) (mode : Mode) (c : Char) :
    decoder.made ⟨mode, false⟩ ((encoder.shifted mode c).1 ++ after) =
      decoder.made ⟨target mode c, false⟩ after := by
  rw [shifted_eq]
  dsimp only
  by_cases stays : mode = target mode c
  · rw [if_pos stays, List.nil_append, ← stays]
  · rw [if_neg stays, made_escape plain]

/-- What closes a text leaves nothing behind it. -/
theorem made_closing (mode : Mode) :
    decoder.made ⟨mode, false⟩ ((encoder.closing? mode).elim [] Prod.fst) = [] := by
  by_cases closed : mode = .ascii
  · have nothing : encoder.closing? mode = none := if_pos closed
    rw [nothing, Option.elim_none, Decoder.made_nil]
  · have closing : encoder.closing? mode = some (escape .ascii, .ascii) := if_neg closed
    have plain : ([] : Bytes).head? ≠ some 0x1B := by simp
    have escaped := made_escape plain mode .ascii
    rw [List.append_nil] at escaped
    rw [closing, Option.elim_some, escaped, Decoder.made_nil]

end Decoding

/-- What comes back from ISO-2022-JP as it was: no character that shifts, and none that is encoded
as another one. -/
def Returns : Utf8.Piece → Prop
  | .char c =>
    isShiftControl c.toNat = false ∧ Jis.isHalfWidthKatakana c = false ∧ c.toNat ≠ 0x2212
  | .stray b => 0x80 ≤ b.toNat

section Returns

variable {mode : Mode} {c : Char} (returns : Returns (.char c)) (after : Bytes)
include returns

theorem made_unmappable (lacks : bytes? (target mode c) c = none) :
    decoder.made ⟨mode, false⟩ ((encoder.shifted mode c).1 ++ (Utf8.encodeChar c ++ after)) =
      .verbatim (Utf8.encodeChar c) ++ decoder.made ⟨target mode c, false⟩ after := by
  have beyond : 0x80 ≤ c.toNat := by
    by_contra ascii
    rw [bytes?, if_pos (by omega), returns.1] at lacks
    cases lacks
  have high := Utf8.high_of_encodeChar beyond
  have nonempty : Utf8.encodeChar c ≠ [] := by
    rcases Utf8.front_encodeChar c [] with ⟨lead, tail, written, -⟩
    rw [written]
    exact List.cons_ne_nil _ _
  have plain :=
    head_append_ne_escape nonempty (fun b inside => ne_escape_of_high (high b inside)) after
  rw [made_shifted plain, made_strays high]

theorem made_encoded {bytes : Bytes} (has : bytes? (target mode c) c = some bytes) :
    decoder.made ⟨mode, false⟩ ((encoder.shifted mode c).1 ++ (bytes ++ after)) =
      .converted (Utf8.encodeChar c) ++ decoder.made ⟨target mode c, false⟩ after := by
  have stands := char?_of_bytes? returns.2.1 returns.2.2 has
  rcases head_of_char? stands with ⟨b, more, rfl, -⟩
  have plain := head_append_ne_escape (List.cons_ne_nil b more) (plain_of_bytes? has) after
  rw [made_shifted plain, made_char stands, Utf8.encode_singleton]

end Returns

/-- The decoder makes of what has been encoded what it was. -/
theorem bytes_made_madeOf (mode : Mode) {ps : List Utf8.Piece} (returns : ∀ p ∈ ps, Returns p) :
    (decoder.made ⟨mode, false⟩ (encoder.madeOf mode ps).bytes).bytes =
      ps.flatMap Utf8.Piece.bytes := by
  induction ps generalizing mode with
  | nil =>
    rw [Encoder.madeOf, Marked.bytes_converted, made_closing]
    rfl
  | cons p ps ih =>
    rcases List.forall_mem_cons.mp returns with ⟨here, later⟩
    -- behind a copied piece at the end the encoder stops, and the decoder has nothing to read
    have goesOn (mode : Mode) : (decoder.made ⟨mode, false⟩
        (if ps = [] then [] else encoder.madeOf mode ps : Marked).bytes).bytes =
          ps.flatMap Utf8.Piece.bytes := by
      split_ifs with last
      · rw [last, Marked.bytes_nil, Decoder.made_nil]
        rfl
      · exact ih mode later
    rw [List.flatMap_cons]
    cases p with
    | stray b =>
      rw [Encoder.madeOf, Marked.bytes_cons, made_stray here, Marked.bytes_cons, goesOn]
      rfl
    | char c =>
      have shifts : encoder.shifted mode c = ((encoder.shifted mode c).1, target mode c) := by
        rw [shifted_eq]
      cases has : bytes? (target mode c) c with
      | none =>
        rw [encoder.madeOf_of_unmappable shifts has]
        simp only [Marked.bytes_append, Marked.bytes_converted, Marked.bytes_verbatim]
        rw [made_unmappable here _ has, Marked.bytes_append, Marked.bytes_verbatim, goesOn]
        rfl
      | some bytes =>
        rw [encoder.madeOf_of_char shifts has]
        simp only [Marked.bytes_append, Marked.bytes_converted]
        rw [made_encoded here _ has, Marked.bytes_append, Marked.bytes_converted, ih _ later]
        rfl

theorem returns_pieces {input : Bytes} (plain : ∀ b ∈ input, isShiftControl b.toNat = false)
    (own : ∀ c, Utf8.encodeChar c <:+: input →
      Jis.isHalfWidthKatakana c = false ∧ c.toNat ≠ 0x2212) :
    ∀ p ∈ Utf8.pieces input, Returns p := by
  intro p inside
  cases p with
  | stray b => exact Utf8.high_of_stray inside
  | char c =>
    have within := Utf8.infix_of_char_mem inside
    exact ⟨isShiftControl_eq_false plain within, own c within⟩

end Iso2022Jp

namespace WebSession

open Iso2022Jp (isShiftControl)

/-- Bytes that are encoded in ISO-2022-JP and decoded again are the same as before, whatever of them
is not UTF-8 and whatever characters cannot be encoded, as long as no byte shifts by itself and no
character is encoded as another one. -/
theorem decoding_undoes_encoding {unicode japanese : String}
    (utf8 : Encoding.ofLabel? unicode = some .utf8)
    (jp : Encoding.ofLabel? japanese = some .iso2022Jp) {input : Bytes}
    (plain : ∀ b ∈ input, isShiftControl b.toNat = false)
    (own : ∀ c, Utf8.encodeChar c <:+: input →
      Jis.isHalfWidthKatakana c = false ∧ c.toNat ≠ 0x2212) :
    ∃ there back, open? unicode japanese = .ok (.openedEncoder "ISO-2022-JP", there) ∧
      open? japanese unicode = .ok (.openedDecoder "ISO-2022-JP", back) ∧
      ∃ encoded : Bytes, (transcode webCodec there input).result = .ok ⟨encoded ++ [0]⟩ ∧
        (transcode webCodec back encoded).result = .ok ⟨input ++ [0]⟩ := by
  have opened : open? unicode japanese = .ok (.openedEncoder "ISO-2022-JP", encoding .iso2022Jp) :=
    open?_of_utf8 utf8 jp (by simp) rfl
  have made := Iso2022Jp.bytes_made_madeOf .ascii (Iso2022Jp.returns_pieces plain own)
  rw [← Encoder.made_eq_madeOf, Utf8.flatMap_bytes_pieces] at made
  have comesBack : (Encoding.iso2022Jp.decoder.made Encoding.iso2022Jp.decoder.start
      (Encoding.iso2022Jp.encoder.made Encoding.iso2022Jp.encoder.start input).bytes).bytes = input :=
    made
  refine ⟨_, _, opened, open?_of_labels jp utf8, _, (transcode_encoding .iso2022Jp input fun _ => plain).1, ?_⟩
  rw [(transcode_decoding .iso2022Jp _).1, comesBack]

/-- A hiragana, a byte that is no character, a yen sign, an emoji that cannot be encoded, and a
hiragana that is cut off. -/
theorem decoding_undoes_encoding_hiragana :
    Encoding.ofLabel? "utf-8" = some .utf8 ∧
    Encoding.ofLabel? "iso-2022-jp" = some .iso2022Jp ∧
    ∃ there back, open? "utf-8" "iso-2022-jp" = .ok (.openedEncoder "ISO-2022-JP", there) ∧
      open? "iso-2022-jp" "utf-8" = .ok (.openedDecoder "ISO-2022-JP", back) ∧
      ∃ encoded : Bytes,
        (transcode webCodec there [0xE3, 0x81, 0x82, 0xFF, 0xC2, 0xA5, 0xF0, 0x9F, 0x98, 0x80, 0xE3,
            0x81]).result = .ok ⟨encoded ++ [0]⟩ ∧
        (transcode webCodec back encoded).result =
          .ok ⟨[0xE3, 0x81, 0x82, 0xFF, 0xC2, 0xA5, 0xF0, 0x9F, 0x98, 0x80, 0xE3, 0x81, 0]⟩ := by
  have utf8 : Encoding.ofLabel? "utf-8" = some .utf8 := by rfl
  have jp : Encoding.ofLabel? "iso-2022-jp" = some .iso2022Jp := by rfl
  let input : Bytes := [0xE3, 0x81, 0x82, 0xFF, 0xC2, 0xA5, 0xF0, 0x9F, 0x98, 0x80, 0xE3, 0x81]
  have plain : ∀ b ∈ input, isShiftControl b.toNat = false := by simp [input, isShiftControl]
  have pieces : Utf8.pieces input =
      [.char 'あ', .stray 0xFF, .char '¥', .char '😀', .stray 0xE3, .stray 0x81] := by
    simp [input, Utf8.pieces, Utf8.front, Utf8.owed, Utf8.follow, Utf8.payload]
  have own : ∀ c, Utf8.encodeChar c <:+: input →
      Jis.isHalfWidthKatakana c = false ∧ c.toNat ≠ 0x2212 := by
    intro c within
    have inside := Utf8.char_mem_pieces_iff.mpr within
    rw [pieces] at inside
    simp only [List.mem_cons, Utf8.Piece.char.injEq, reduceCtorEq, List.not_mem_nil, or_false,
      false_or] at inside
    rcases inside with rfl | rfl | rfl <;> decide
  exact ⟨utf8, jp, decoding_undoes_encoding utf8 jp plain own⟩

end WebSession

end LinkCharset
