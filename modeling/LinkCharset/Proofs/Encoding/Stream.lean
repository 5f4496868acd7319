import LinkCharset.Proofs.Codec.Splitting
import LinkCharset.Proofs.Encoding.Grid

/-! # ISO-2022-JP streams

A stream is a row of shift sequences, none right behind another, and characters of the mode that the
last of them led to. Stray bytes, which are no ASCII, may stand anywhere between these: they are
copied, and everything else is decoded as it is without them. -/
namespace LinkCharset

namespace Segment

def isSequence : Segment → Bool
  | sequence .. => true
  | copied _ => false

theorem flatMap_chars_filter (segments : List Segment) :
    (segments.filter isSequence).flatMap chars = segments.flatMap chars := by
  induction segments with
  | nil => rfl
  | cons s segments ih =>
    cases s with
    | sequence bytes text => exact congrArg (text ++ ·) ih
    | copied b => exact ih

theorem flatMap_verbatim_filter (segments : List Segment) :
    (segments.filter isSequence).flatMap verbatim = [] := by
  rw [List.flatMap_eq_nil_iff]
  intro s inside
  cases s with
  | sequence bytes text => rfl
  | copied b => cases (List.mem_filter.mp inside).2

end Segment

namespace Iso2022Jp

def char? (mode : Mode) : Bytes → Option Char
  | [b] => single? mode b
  | [lead, trail] =>
    if mode = .kanji ∧ isCell lead ∧ isCell trail then Jis.cell? Jis.x0208 0x21 lead trail else none
  | _ => none

/-- A stream in a mode. A shift sequence is the one piece that stands for no text. -/
inductive Stream : Mode → List Segment → Prop where
  | nil (mode : Mode) : Stream mode []
  | shift {mode next : Mode} {second third : UInt8} {segments : List Segment}
      (designates : designated? second third = some next)
      (apart : ∀ bytes, segments.head? ≠ some (.sequence bytes []))
      (later : Stream next segments) :
      Stream mode (.sequence [0x1B, second, third] [] :: segments)
  | char {mode : Mode} {bytes : Bytes} {c : Char} {segments : List Segment}
      (has : char? mode bytes = some c) (later : Stream mode segments) :
      Stream mode (.sequence bytes [c] :: segments)
  | stray {mode : Mode} {b : UInt8} {segments : List Segment} (high : 0x80 ≤ b.toNat)
      (later : Stream mode segments) : Stream mode (.copied b :: segments)

section Reading

variable {mode next : Mode} {b second third : UInt8} {bytes after : Bytes} {c : Char}

theorem single?_of_high (high : 0x80 ≤ b.toNat) (mode : Mode) : single? mode b = none := by
  have notAscii : isAscii b = false := by
    rw [Bool.eq_false_iff, Ne, Utf8.isAscii_iff]
    omega
  have ne {n : UInt8} (low : n.toNat < 0x80) : b ≠ n := by
    rintro rfl
    omega
  cases mode with
  | ascii => simp [single?, notAscii]
  | roman => simp [single?, notAscii, ne]
  | kanji => rfl
  | katakana =>
    rw [single?, if_neg]
    simp only [UInt8.le_iff_toNat_le, UInt8.reduceToNat]
    omega

theorem isCell_iff : isCell b = true ↔ 0x21 ≤ b.toNat ∧ b.toNat ≤ 0x7E := by
  simp [isCell, UInt8.le_iff_toNat_le]

theorem ne_escape_of_high (high : 0x80 ≤ b.toNat) : b ≠ 0x1B := by
  rintro rfl
  exact absurd high (by decide)

/-- A stray byte is bad alone and leaves the mode as it is. -/
theorem made_stray (high : 0x80 ≤ b.toNat) (mode : Mode) (rest : Bytes) :
    decoder.made ⟨mode, false⟩ (b :: rest) = (b, true) :: decoder.made ⟨mode, false⟩ rest := by
  have plain := ne_escape_of_high high
  have notCell : ¬ isCell b = true := by
    rw [isCell_iff]
    omega
  have reads : read ⟨mode, false⟩ b rest = .malformed 1 0 ⟨mode, false⟩ := by
    rw [read, if_neg plain, if_neg notCell, single?_of_high high]
    exact ite_self _
  have resumed : decoder.resume 1 0 ⟨mode, false⟩ = ⟨mode, false⟩ := rfl
  rw [Decoder.made_of_malformed reads, resumed]

/-- A shift sequence leads to its mode, as long as no other escape byte is right behind it. -/
theorem made_shift (designates : designated? second third = some next)
    (plain : after.head? ≠ some 0x1B) (mode : Mode) :
    decoder.made ⟨mode, false⟩ (0x1B :: second :: third :: after) =
      decoder.made ⟨next, false⟩ after := by
  have introduces : second = 0x24 ∨ second = 0x28 := by
    unfold designated? at designates
    split_ifs at designates <;> simp_all
  have single : startsEscape after = false := by
    cases after with
    | nil => rfl
    | cons b after =>
      unfold startsEscape
      split
      · rename_i starts
        cases starts
        exact absurd rfl plain
      · rfl
  have settled : (after == [0x1B]) = false := by
    rw [beq_eq_false_iff_ne]
    rintro rfl
    exact plain rfl
  have reads : read ⟨mode, false⟩ 0x1B (second :: third :: after) = .text [] 3 ⟨next, false⟩ := by
    simp only [read_escape, readEscape, if_pos introduces, designates, enter, single, settled]
    rfl
  rw [Decoder.made_of_text reads]
  rfl

theorem head_of_char? (has : char? mode bytes = some c) :
    ∃ b more, bytes = b :: more ∧ b ≠ 0x1B := by
  match bytes with
  | [b] =>
    refine ⟨b, [], rfl, ?_⟩
    rintro rfl
    cases mode <;> cases has
  | [lead, trail] =>
    refine ⟨lead, [trail], rfl, ?_⟩
    rintro rfl
    rw [char?] at has
    split_ifs at has with cells
    exact absurd cells.2.1 (by decide)

theorem made_char (has : char? mode bytes = some c) (rest : Bytes) :
    decoder.made ⟨mode, false⟩ (bytes ++ rest) =
      .converted (Utf8.encode [c]) ++ decoder.made ⟨mode, false⟩ rest := by
  rcases head_of_char? has with ⟨b, more, rfl, plain⟩
  match more with
  | [] =>
    have foreign : mode ≠ .kanji := by
      rintro rfl
      cases has
    have reads : decoder.read ⟨mode, false⟩ b rest = .text [c] 1 ⟨mode, false⟩ := by
      rw [char?] at has
      change read _ _ _ = _
      rw [read, if_neg plain, if_neg foreign, has]
    exact Decoder.made_of_text reads
  | [trail] =>
    rw [char?] at has
    split_ifs at has with cells
    rcases cells with ⟨rfl, lead, cell⟩
    have noEscape : trail ≠ 0x1B := by
      rintro rfl
      exact absurd cell (by decide)
    have reads : decoder.read ⟨.kanji, false⟩ b (trail :: rest) = .text [c] 2 ⟨.kanji, false⟩ := by
      change read _ _ _ = _
      rw [read, if_neg plain, if_pos rfl, if_pos lead, readPair, if_neg noEscape, if_pos cell, has]
    exact Decoder.made_of_text reads

end Reading

namespace Stream

variable {mode : Mode} {segments : List Segment}

theorem head_ne_escape (stream : Stream mode segments)
    (apart : ∀ bytes, segments.head? ≠ some (.sequence bytes [])) :
    (segments.flatMap Segment.bytes).head? ≠ some 0x1B := by
  cases stream with
  | nil => simp
  | shift designates _ later => exact absurd rfl (apart _)
  | char has later =>
    rcases head_of_char? has with ⟨b, more, rfl, plain⟩
    simpa [Segment.bytes] using plain
  | stray high later => simpa [Segment.bytes] using ne_escape_of_high high

theorem made (stream : Stream mode segments) :
    decoder.made ⟨mode, false⟩ (segments.flatMap Segment.bytes) =
      segments.flatMap Segment.marked := by
  induction stream with
  | nil mode => exact Decoder.made_nil
  | shift designates apart later ih =>
    exact (made_shift designates (later.head_ne_escape apart) _).trans ih
  | char has later ih =>
    rw [List.flatMap_cons, List.flatMap_cons, ← ih]
    exact made_char has _
  | stray high later ih =>
    rw [List.flatMap_cons, List.flatMap_cons, ← ih]
    exact made_stray high _ _

/-- Stray bytes may be put anywhere between the pieces of a stream. -/
theorem of_filter (stream : Stream mode (segments.filter Segment.isSequence))
    (high : ∀ b, .copied b ∈ segments → 0x80 ≤ b.toNat) : Stream mode segments := by
  induction segments generalizing mode with
  | nil => exact .nil mode
  | cons s segments ih =>
    have behind : ∀ b, .copied b ∈ segments → 0x80 ≤ b.toNat :=
      fun b inside => high b (List.mem_cons_of_mem _ inside)
    cases s with
    | copied b => exact .stray (high b List.mem_cons_self) (ih stream behind)
    | sequence bytes chars =>
      rw [List.filter_cons_of_pos rfl] at stream
      cases stream with
      | char has later => exact .char has (ih later behind)
      | shift designates apart later =>
        -- what starts with a shift still does without the stray bytes behind it
        refine .shift designates (fun bytes starts => ?_) (ih later behind)
        rcases List.head?_eq_some_iff.mp starts with ⟨more, rfl⟩
        exact apart bytes rfl

end Stream

end Iso2022Jp

namespace WebSession

open Iso2022Jp (Stream)

variable {source target : String} {segments : List Segment}

theorem transcode_stream (stream : Stream .ascii segments) :
    (transcode webCodec (decoding .iso2022Jp) (segments.flatMap Segment.bytes)).result =
        .ok ⟨segments.flatMap Segment.output ++ [0]⟩ ∧
      (transcode webCodec (decoding .iso2022Jp) (segments.flatMap Segment.bytes)).trace.copiedBytes =
        segments.flatMap Segment.verbatim := by
  have made : Encoding.iso2022Jp.decoder.made Encoding.iso2022Jp.decoder.start
      (segments.flatMap Segment.bytes) = segments.flatMap Segment.marked := stream.made
  rcases transcode_decoding .iso2022Jp (segments.flatMap Segment.bytes) with ⟨result, copied⟩
  rw [made, Marked.bytes_flatMap] at result
  rw [made, Marked.copied_flatMap] at copied
  simp only [Segment.bytes_marked] at result
  simp only [Segment.copied_marked] at copied
  exact ⟨result, copied⟩

/-- A well-formed ISO-2022-JP stream is decoded whole, and stray bytes anywhere between its pieces
change nothing of that: just these are copied, each in its place, and each piece stands for the text
that it stands for without them. -/
theorem stray_bytes_are_local (input : Encoding.ofLabel? source = some .iso2022Jp)
    (output : Encoding.ofLabel? target = some .utf8)
    (stream : Stream .ascii (segments.filter Segment.isSequence))
    (high : ∀ b, .copied b ∈ segments → 0x80 ≤ b.toNat) :
    ∃ session, open? source target = .ok (.openedDecoder "ISO-2022-JP", session) ∧
      (transcode webCodec session
          ((segments.filter Segment.isSequence).flatMap Segment.bytes)).result =
        .ok ⟨Utf8.encode (segments.flatMap Segment.chars) ++ [0]⟩ ∧
      (transcode webCodec session
          ((segments.filter Segment.isSequence).flatMap Segment.bytes)).trace.copiedBytes = [] ∧
      (transcode webCodec session (segments.flatMap Segment.bytes)).result =
        .ok ⟨segments.flatMap Segment.output ++ [0]⟩ ∧
      (transcode webCodec session (segments.flatMap Segment.bytes)).trace.copiedBytes =
        segments.flatMap Segment.verbatim := by
  have whole := Segment.flatMap_verbatim_filter segments
  rcases transcode_stream stream with ⟨result, copied⟩
  rw [Segment.flatMap_output whole, Segment.flatMap_chars_filter] at result
  rw [whole] at copied
  rcases transcode_stream (stream.of_filter high) with ⟨strewn, strays⟩
  exact ⟨_, open?_of_labels input output, result, copied, strewn, strays⟩

/-- A yen sign and a hiragana in their modes, with stray bytes in front, behind each shift sequence,
before the second one and at the end. -/
theorem stray_bytes_are_local_hiragana :
    Encoding.ofLabel? "iso-2022-jp" = some .iso2022Jp ∧
    Encoding.ofLabel? "utf-8" = some .utf8 ∧
    ∃ session, open? "iso-2022-jp" "utf-8" = .ok (.openedDecoder "ISO-2022-JP", session) ∧
      (transcode webCodec session
        [0x1B, 0x28, 0x4A, 0x5C, 0x1B, 0x24, 0x42, 0x24, 0x22]).result =
          .ok ⟨[0xC2, 0xA5, 0xE3, 0x81, 0x82, 0]⟩ ∧
      (transcode webCodec session [0xFF, 0x1B, 0x28, 0x4A, 0x80, 0x5C, 0xA0, 0x1B, 0x24, 0x42, 0xFE,
          0x81, 0x24, 0x22, 0x85]).result =
        .ok ⟨[0xFF, 0x80, 0xC2, 0xA5, 0xA0, 0xFE, 0x81, 0xE3, 0x81, 0x82, 0x85, 0]⟩ ∧
      (transcode webCodec session [0xFF, 0x1B, 0x28, 0x4A, 0x80, 0x5C, 0xA0, 0x1B, 0x24, 0x42, 0xFE,
          0x81, 0x24, 0x22, 0x85]).trace.copiedBytes = [0xFF, 0x80, 0xA0, 0xFE, 0x81, 0x85] := by
  have input : Encoding.ofLabel? "iso-2022-jp" = some .iso2022Jp := by rfl
  have output : Encoding.ofLabel? "utf-8" = some .utf8 := by rfl
  let segments : List Segment :=
    [.copied 0xFF, .sequence [0x1B, 0x28, 0x4A] [], .copied 0x80, .sequence [0x5C] ['¥'],
      .copied 0xA0, .sequence [0x1B, 0x24, 0x42] [], .copied 0xFE, .copied 0x81,
      .sequence [0x24, 0x22] ['あ'], .copied 0x85]
  have yen : Iso2022Jp.char? .roman [0x5C] = some '¥' := by rfl
  have hiragana : Iso2022Jp.char? .kanji [0x24, 0x22] = some 'あ' :=
    Grid.char?_position? Jis.length_row_x0208_le Jis.position?_x0208_hiragana
  have stream : Stream .ascii (segments.filter Segment.isSequence) := by
    have toRoman : Iso2022Jp.designated? 0x28 0x4A = some .roman := by rfl
    have toKanji : Iso2022Jp.designated? 0x24 0x42 = some .kanji := by rfl
    refine .shift toRoman (by simp [Segment.isSequence]) (.char yen ?_)
    exact .shift toKanji (by simp [Segment.isSequence]) (.char hiragana (.nil _))
  have high : ∀ b, .copied b ∈ segments → 0x80 ≤ b.toNat := by simp [segments]
  rcases stray_bytes_are_local input output stream high with
    ⟨session, opened, result, -, strewn, strays⟩
  exact ⟨input, output, session, opened, result, strewn, strays⟩

end WebSession

end LinkCharset
