import LinkCharset.Proofs.Codec.Web
import LinkCharset.Proofs.Encoding.Ending
import LinkCharset.Proofs.Encoding.Grid

/-! # The mode that an ISO-2022-JP text is left in

Whoever follows the escape sequences of a text that has been encoded is always in the mode of the
encoder. So a text ends in ASCII where it is closed, and else in the mode of what has been encoded
last: a stray byte at the end of the input is copied, and the text is not closed behind it. -/
namespace LinkCharset

namespace Iso2022Jp

def escaped? (b : UInt8) : Bytes → Option Mode
  | second :: third :: _ => if b = 0x1B then designated? second third else none
  | _ => none

/-- The mode in which a stream is left, as its escape sequences tell. -/
def modeAfter (mode : Mode) : Bytes → Mode
  | [] => mode
  | b :: rest => modeAfter ((escaped? b rest).getD mode) rest

theorem modeAfter_cons {b : UInt8} (plain : b ≠ 0x1B) (mode : Mode) (rest : Bytes) :
    modeAfter mode (b :: rest) = modeAfter mode rest := by
  have stays : escaped? b rest = none := by
    unfold escaped?
    split
    · rw [if_neg plain]
    · rfl
  rw [modeAfter, stays, Option.getD_none]

theorem modeAfter_append {bytes : Bytes} (plain : ∀ b ∈ bytes, b ≠ 0x1B) (mode : Mode)
    (rest : Bytes) : modeAfter mode (bytes ++ rest) = modeAfter mode rest := by
  induction bytes with
  | nil => rfl
  | cons b bytes ih =>
    rw [List.cons_append, modeAfter_cons (plain b List.mem_cons_self)]
    exact ih fun b inside => plain b (List.mem_cons_of_mem _ inside)

theorem modeAfter_escape (mode next : Mode) (rest : Bytes) :
    modeAfter mode (escape next ++ rest) = modeAfter next rest := by
  have behind {second third : UInt8} (designates : designated? second third = some next)
      (plain : second ≠ 0x1B ∧ third ≠ 0x1B) :
      modeAfter mode (0x1B :: second :: third :: rest) = modeAfter next rest := by
    rw [modeAfter, escaped?, if_pos rfl, designates, Option.getD_some, modeAfter_cons plain.1,
      modeAfter_cons plain.2]
  cases next with
  | ascii => exact behind rfl (by decide)
  | roman => exact behind rfl (by decide)
  | katakana => exact behind rfl (by decide)
  | kanji => exact behind rfl (by decide)

theorem shifted_eq (mode : Mode) (c : Char) :
    encoder.shifted mode c =
      (if mode = target mode c then [] else escape (target mode c), target mode c) := by
  rw [Encoder.shifted]
  change (switch? mode (target mode c)).getD ([], mode) = _
  rw [switch?]
  by_cases stays : mode = target mode c
  · rw [if_pos stays, if_pos stays, ← stays]
    rfl
  · rw [if_neg stays, if_neg stays]
    rfl

theorem modeAfter_shifted (mode : Mode) (c : Char) (rest : Bytes) :
    modeAfter mode ((encoder.shifted mode c).1 ++ rest) =
      modeAfter (encoder.shifted mode c).2 rest := by
  rw [shifted_eq]
  dsimp only
  by_cases stays : mode = target mode c
  · rw [if_pos stays, List.nil_append, ← stays]
  · rw [if_neg stays, modeAfter_escape]

theorem plain_of_bytes? {mode : Mode} {c : Char} {bytes : Bytes} (has : bytes? mode c = some bytes) :
    ∀ b ∈ bytes, b ≠ 0x1B := by
  rw [bytes?] at has
  by_cases ascii : c.toNat < 0x80
  · rw [if_pos ascii] at has
    split_ifs at has with control
    cases has
    intro b made escape
    rw [List.mem_singleton.mp made] at escape
    have code : c.toNat = 0x1B := by
      have same := congrArg UInt8.toNat escape
      rwa [UInt8.toNat_ofNat_of_lt' (by change _ < 256; omega)] at same
    rw [code] at control
    exact control rfl
  rw [if_neg ascii] at has
  by_cases roman : isRomanOnly c
  · rw [if_pos roman] at has
    cases has
    split_ifs <;> simp
  rw [if_neg roman] at has
  split_ifs at has
  intro b made escape
  have inside := Jis.cellBytes?_between (by decide) has b made
  rw [escape] at inside
  exact absurd inside.1 (by decide)

theorem encodes_of_bytes? {mode : Mode} {c : Char} (has : (bytes? mode c).isSome) :
    encoder.Encodes c := by
  intro held
  rw [shifted_eq]
  change (bytes? (target held c) c).isSome
  rw [bytes?] at has ⊢
  by_cases ascii : c.toNat < 0x80
  · rw [if_pos ascii] at has ⊢
    exact has
  by_cases roman : isRomanOnly c
  · rw [if_neg ascii, if_pos roman]
    rfl
  rw [if_neg ascii, if_neg roman] at has ⊢
  split_ifs at has with kanji
  · have leads : target held c = .kanji := by
      simp only [target, modeFor?, if_neg ascii, if_neg roman, if_pos has]
    rw [leads, if_pos rfl]
    exact has
  · cases has

def leftIn (ending : Encoder.Ending Mode) : Mode := if ending.isClosed then .ascii else ending.state

/-- Whoever follows the escape sequences comes to the mode of the encoder. -/
theorem modeAfter_made (mode : Mode) {input : Bytes} (plain : ∀ b ∈ input, b ≠ 0x1B) :
    modeAfter mode (encoder.made mode input).bytes = leftIn (encoder.ending mode input) := by
  have copied {b : UInt8} {rest : Bytes} (plain : ∀ byte ∈ b :: rest, byte ≠ 0x1B) (mode : Mode) :
      modeAfter mode (Marked.bytes ((b, true) :: afterCopy (encoder.made mode) rest)) =
        if rest = [] then mode else modeAfter mode (encoder.made mode rest).bytes := by
    rw [Marked.bytes_cons, modeAfter_cons (plain b List.mem_cons_self), afterCopy]
    split <;> rfl
  have behind {b : UInt8} {rest : Bytes} (plain : ∀ byte ∈ b :: rest, byte ≠ 0x1B) :
      ∀ byte ∈ rest, byte ≠ 0x1B := fun byte inside => plain byte (List.mem_cons_of_mem b inside)
  fun_induction Encoder.ending encoder mode input with
  | case1 mode =>
    rw [Encoder.made]
    by_cases closed : mode = .ascii
    · have nothing : encoder.closing? mode = none := if_pos closed
      rw [nothing]
      exact closed
    · have closing : encoder.closing? mode = some (escape .ascii, .ascii) := if_neg closed
      rw [closing, Marked.bytes_converted]
      exact modeAfter_escape mode .ascii []
  | case2 mode b length truncated stops =>
    rw [Encoder.made_of_illFormed stops, copied plain, if_pos rfl]
    rfl
  | case3 mode b rest length truncated stops goesOn ih =>
    rw [Encoder.made_of_illFormed stops, copied plain, if_neg goesOn]
    exact ih (behind plain)
  | case4 mode b c length lacks reads =>
    rw [Encoder.made_of_unmappable reads Prod.mk.eta.symm lacks, Marked.bytes_append, Marked.bytes_converted,
      modeAfter_shifted, copied plain, if_pos rfl]
    rfl
  | case5 mode b rest c length reads lacks goesOn ih =>
    rw [Encoder.made_of_unmappable reads Prod.mk.eta.symm lacks, Marked.bytes_append, Marked.bytes_converted,
      modeAfter_shifted, copied plain, if_neg goesOn]
    exact ih (behind plain)
  | case6 mode b rest c length reads bytes has ih =>
    rw [Encoder.made_of_char reads Prod.mk.eta.symm has, Marked.bytes_append, Marked.bytes_converted,
      List.append_assoc, modeAfter_shifted, modeAfter_append (plain_of_bytes? has)]
    exact ih fun byte inside => behind plain byte (List.mem_of_mem_drop inside)

theorem not_escape_of_plain {input : Bytes} (plain : ∀ b ∈ input, isShiftControl b.toNat = false) :
    ∀ b ∈ input, b ≠ 0x1B := by
  rintro b inside rfl
  exact absurd (plain _ inside) (by decide)

def IsEncodable (c : Char) : Prop := ∃ mode, (bytes? mode c).isSome

/-- A text is closed just where it is empty or ends in a character that can be encoded. -/
theorem isClosed_iff {mode : Mode} {input : Bytes} :
    (encoder.ending mode input).isClosed ↔
      input = [] ∨ ∃ before c, input = before ++ Utf8.encodeChar c ∧ IsEncodable c := by
  constructor
  · intro closed
    rcases Encoder.endsEncoded_of_isClosed closed with rfl | ⟨before, c, held, rfl, has⟩
    · exact .inl rfl
    · exact .inr ⟨before, c, rfl, _, has⟩
  · rintro (rfl | ⟨before, c, rfl, held, has⟩)
    · rw [Encoder.ending]
    · rcases Encoder.ending_append (encodes_of_bytes? has) before [] mode with ⟨last, ends⟩
      rw [List.append_nil] at ends
      rw [ends, Encoder.ending]

/-- The mode for a character beyond ASCII is the same from wherever it is entered. -/
theorem target_of_modeFor? {c : Char} {mode : Mode} (leads : modeFor? .ascii c = some mode)
    (foreign : mode ≠ .ascii) (held : Mode) : target held c = mode ∧ (bytes? mode c).isSome := by
  rw [modeFor?] at leads
  by_cases ascii : c.toNat < 0x80
  · rw [if_pos ascii, if_neg (by simp)] at leads
    exact absurd (Option.some.inj leads).symm foreign
  by_cases roman : isRomanOnly c
  · rw [if_neg ascii, if_pos roman] at leads
    cases leads
    rw [target, modeFor?, if_neg ascii, if_pos roman, bytes?, if_neg ascii, if_pos roman]
    exact ⟨rfl, rfl⟩
  rw [if_neg ascii, if_neg roman] at leads
  split_ifs at leads with kanji
  cases leads
  rw [target, modeFor?, if_neg ascii, if_neg roman, if_pos kanji, bytes?, if_neg ascii, if_neg roman,
    if_pos rfl]
  exact ⟨rfl, kanji⟩

/-- Behind a stray byte the encoder is left in the mode of the character before it. -/
theorem ending_stray {c : Char} {mode : Mode} (leads : modeFor? .ascii c = some mode)
    (foreign : mode ≠ .ascii) {stray : UInt8} (high : 0x80 ≤ stray.toNat) (before : Bytes)
    (held : Mode) :
    encoder.ending held (before ++ Utf8.encodeChar c ++ [stray]) = ⟨mode, false⟩ := by
  have encodes := encodes_of_bytes? (target_of_modeFor? leads foreign held).2
  rcases Encoder.ending_append encodes before [stray] held with ⟨last, ends⟩
  rcases Utf8.front_alone high with ⟨length, truncated, stops⟩
  have shifted : (encoder.shifted last c).2 = mode := by
    rw [shifted_eq]
    exact (target_of_modeFor? leads foreign last).1
  rw [ends, shifted, Encoder.ending, stops]
  rfl

theorem modeFor?_hiragana : modeFor? .ascii 'あ' = some .kanji := by
  have same : widen 'あ' = 'あ' := by rfl
  have place : kanjiBytes? 'あ' = some [0x24, 0x22] := by
    rw [kanjiBytes?, same, Jis.cellBytes?, Jis.position?_x0208_hiragana]
    rfl
  rw [modeFor?, if_neg (by decide), if_neg (by decide), place]
  rfl

end Iso2022Jp

namespace WebSession

open Iso2022Jp

/-- ISO-2022-JP text is closed only behind a character that can be encoded. Whoever follows its
escape sequences is left in ASCII there, and in the mode of the encoder otherwise, where the last
byte has been copied and ends the text. So a stray byte behind a character that is not ASCII leaves
the text in the mode of that character. -/
theorem mode_left_by_encoding {input : Bytes} (plain : ∀ b ∈ input, isShiftControl b.toNat = false) :
    ∃ output : Bytes,
      (transcode webCodec (encoding .iso2022Jp) input).result = .ok ⟨output ++ [0]⟩ ∧
      modeAfter .ascii output = leftIn (encoder.ending .ascii input) ∧
      ((encoder.ending .ascii input).isClosed ↔
        input = [] ∨ ∃ before c, input = before ++ Utf8.encodeChar c ∧ IsEncodable c) ∧
      ((encoder.ending .ascii input).isClosed = false → ∃ before produced copied b,
        input = before ++ [b] ∧ output = produced ++ [b] ∧
          (transcode webCodec (encoding .iso2022Jp) input).trace.copiedBytes = copied ++ [b]) ∧
      ∀ before c stray mode, input = before ++ Utf8.encodeChar c ++ [stray] →
        0x80 ≤ stray.toNat → modeFor? .ascii c = some mode → mode ≠ .ascii →
          modeAfter .ascii output = mode := by
  have left : modeAfter .ascii (encoder.made .ascii input).bytes =
      leftIn (encoder.ending .ascii input) := modeAfter_made .ascii (not_escape_of_plain plain)
  rcases transcode_encoding .iso2022Jp input fun _ => plain with ⟨result, verbatim⟩
  refine ⟨_, result, left, isClosed_iff, ?_, ?_⟩
  · intro unclosed
    rcases Encoder.made_of_not_closed unclosed with ⟨before, produced, b, given, made⟩
    change Encoding.iso2022Jp.encoder.made Encoding.iso2022Jp.encoder.start input = _ at made
    refine ⟨before, produced.bytes, produced.copied, b, given, ?_, ?_⟩
    · rw [made, Marked.bytes_append]
      rfl
    · rw [verbatim, made, Marked.copied_append]
      rfl
  · rintro before c stray mode rfl high leads foreign
    exact left.trans (congrArg leftIn (ending_stray leads foreign high before .ascii))

/-- A hiragana with a stray byte behind it. -/
theorem mode_left_by_encoding_hiragana :
    open? "UTF-8" "ISO-2022-JP" = .ok (.openedEncoder "ISO-2022-JP", encoding .iso2022Jp) ∧
    (∀ b ∈ [0xE3, 0x81, 0x82, 0xFF], isShiftControl (UInt8.toNat b) = false) ∧
    ∃ output : Bytes,
      (transcode webCodec (encoding .iso2022Jp) [0xE3, 0x81, 0x82, 0xFF]).result =
        .ok ⟨output ++ [0]⟩ ∧
      modeAfter .ascii output = .kanji := by
  have plain : ∀ b ∈ [0xE3, 0x81, 0x82, 0xFF], isShiftControl (UInt8.toNat b) = false := by
    simp [isShiftControl]
  rcases mode_left_by_encoding plain with ⟨output, result, -, -, -, stray⟩
  refine ⟨by rfl, plain, output, result, ?_⟩
  exact stray [] 'あ' 0xFF .kanji rfl (by decide) modeFor?_hiragana (by decide)

/-- It is not so that every text is left in ASCII, even where the input shifts nothing itself. -/
theorem text_is_not_always_closed :
    ¬ ∀ input : Bytes, (∀ b ∈ input, isShiftControl b.toNat = false) →
      ∃ output : Bytes,
        (transcode webCodec (encoding .iso2022Jp) input).result = .ok ⟨output ++ [0]⟩ ∧
          modeAfter .ascii output = .ascii := by
  intro always
  have plain : ∀ b ∈ [0xE3, 0x81, 0x82, 0xFF], isShiftControl (UInt8.toNat b) = false := by
    simp [isShiftControl]
  have high : 0x80 ≤ (0xFF : UInt8).toNat := by decide
  have spelt : [] ++ Utf8.encodeChar 'あ' ++ [0xFF] = [0xE3, 0x81, 0x82, 0xFF] := by rfl
  have ends := ending_stray modeFor?_hiragana (by decide) high [] .ascii
  rw [spelt] at ends
  have left := modeAfter_made .ascii (not_escape_of_plain plain)
  rw [ends] at left
  rcases always [0xE3, 0x81, 0x82, 0xFF] plain with ⟨output, result, ascii⟩
  rw [(transcode_encoding .iso2022Jp _ fun _ => plain).1] at result
  have made := List.append_cancel_right (Transcoded.mk.inj (Except.ok.inj result))
  rw [← made] at ascii
  exact absurd (left.symm.trans ascii) (by decide)

end WebSession

end LinkCharset
