import LinkCharset.Proofs.Codec.Web

/-! # Decoding loses nothing and uses nothing twice

An input that is converted to UTF-8 is cut into sequences that its encoding gives a meaning and
single bytes that are copied, and the output is what these stand for, in their order. No call goes
back behind the input that it was given. -/
namespace LinkCharset

/-- The cursors that a run comes to, turn by turn. -/
def Transcode.Reaches {σ : Type} (c : Codec σ) (total : ℕ) : Cursor σ → Cursor σ → Prop :=
  Relation.ReflTransGen fun s next => ∃ trace, turn c total s = .more trace next

namespace WebSession

open Transcode

variable {e : Encoding} {total : ℕ} {s t : Cursor WebSession}

theorem decodes_turn {mode : e.decoder.Mode} {trace : Trace} (decodes : s.codec = .decode e mode)
    (fits : e.Fits mode s.remaining) (turned : turn webCodec total s = .more trace t) :
    ∃ next, t.codec = .decode e next ∧ e.Fits next t.remaining := by
  have here : webPacing.Fits s.codec s.remaining := decodes ▸ fits
  have carries := turn_carries total (webPacing.written_le here)
  rw [turned] at carries
  rcases carries with ⟨-, -, -, codec, -⟩
  have decodesNext : t.codec =
      .decode e (e.decoder.convert mode s.remaining s.buffer.room).2 := by
    rw [codec, decodes]
    rfl
  have fitsNext := (webPacing.work_turn here turned).1
  rw [decodesNext] at fitsNext
  exact ⟨_, decodesNext, fitsNext⟩

/-- Every cursor of a run stands before input that its decoder's mode fits. -/
theorem decodes_of_reaches (input : Bytes)
    (reaches : Reaches webCodec input.length (start (decoding e) input) s) :
    ∃ mode, s.codec = .decode e mode ∧ e.Fits mode s.remaining := by
  induction reaches with
  | refl => exact ⟨_, rfl, e.decoder_sound.start input⟩
  | tail before step ih =>
    rcases step with ⟨trace, turned⟩
    rcases ih with ⟨mode, decodes, fits⟩
    exact decodes_turn decodes fits turned

theorem malformed_le_read {mode : e.decoder.Mode} {left : Bytes} (fits : e.Fits mode left)
    {room bad extra : ℕ} (stops : (e.decoder.decode mode room left).stop = .malformed bad extra) :
    bad + extra ≤ (e.decoder.decode mode room left).read ∧
      (e.decoder.decode mode room left).read ≤ left.length := by
  rcases e.decoder_sound.tells fits room with ⟨read, -, tells⟩
  rw [stops] at tells
  exact ⟨tells.1, read⟩

theorem open?_of_labels {source target : String} (input : Encoding.ofLabel? source = some e)
    (output : Encoding.ofLabel? target = some .utf8) :
    open? source target = .ok (.openedDecoder e.name, decoding e) := by
  rw [open?, input, output]
  exact if_pos rfl

theorem isEscape_of_isShift (readable : e ≠ .replacement) {bytes : Bytes}
    (shift : e.IsShift bytes) : e = .iso2022Jp ∧ Iso2022Jp.IsEscape bytes := by
  cases e with
  | iso2022Jp => exact ⟨rfl, shift⟩
  | replacement => exact absurd rfl readable
  | _ => exact shift.elim

/-- Decoding loses nothing and uses nothing twice: the input is cut into sequences of the encoding,
of which only escape sequences stand for no text, and single bytes that are copied. The output is
what they stand for, and the text of the input if no byte is copied; and wherever a run comes to, a
sequence that it finds malformed lies in the input that is left. -/
theorem decoding_splits (e : Encoding) (readable : e ≠ .replacement) (input : Bytes) :
    (∀ source target, Encoding.ofLabel? source = some e → Encoding.ofLabel? target = some .utf8 →
      open? source target = .ok (.openedDecoder e.name, decoding e)) ∧
    ∃ segments : List Segment,
      e.decoder.Splits e.decoder.start input segments ∧
      segments.flatMap Segment.bytes = input ∧
      (∀ s ∈ segments, s.bytes ≠ []) ∧
      (∀ bytes, .sequence bytes [] ∈ segments → e = .iso2022Jp ∧ Iso2022Jp.IsEscape bytes) ∧
      (transcode webCodec (decoding e) input).result =
        .ok ⟨segments.flatMap Segment.output ++ [0]⟩ ∧
      (transcode webCodec (decoding e) input).trace.copiedBytes =
        segments.flatMap Segment.verbatim ∧
      ((transcode webCodec (decoding e) input).trace.copiedBytes = [] →
        Utf8.validate (segments.flatMap Segment.output) = .ok (segments.flatMap Segment.chars)) ∧
      ∀ s, Reaches webCodec input.length (start (decoding e) input) s →
        ∃ mode, s.codec = .decode e mode ∧ ∀ bad extra,
          (e.decoder.decode mode s.buffer.room s.remaining).stop = .malformed bad extra →
            bad + extra ≤ (e.decoder.decode mode s.buffer.room s.remaining).read ∧
              (e.decoder.decode mode s.buffer.room s.remaining).read ≤ s.remaining.length := by
  have fits : e.Fits e.decoder.start input := e.decoder_sound.start input
  have splits := e.decoder_sound.splits fits
  rcases transcode_decoding e input with ⟨result, copied⟩
  rw [Decoder.made, Marked.bytes_flatMap] at result
  rw [Decoder.made, Marked.copied_flatMap] at copied
  simp only [Segment.bytes_marked] at result
  simp only [Segment.copied_marked] at copied
  refine ⟨fun _ _ => open?_of_labels, _, splits, splits.flatMap_bytes, splits.bytes_ne_nil, ?_,
    result, copied, ?_, ?_⟩
  · intro bytes silent
    exact isEscape_of_isShift readable (e.decoder_sound.isShift fits silent)
  · intro whole
    rw [copied] at whole
    rw [Segment.flatMap_output whole, Utf8.validate_encode]
  · intro s reaches
    rcases decodes_of_reaches input reaches with ⟨mode, decodes, here⟩
    exact ⟨mode, decodes, fun bad extra stops => malformed_le_read here stops⟩

/-- Two shifts to Roman letters in a row, of which the first is broken up, and a yen sign. -/
theorem decoding_splits_two_shifts :
    Encoding.iso2022Jp ≠ .replacement ∧
    ∃ segments : List Segment,
      segments.flatMap Segment.bytes = [0x1B, 0x28, 0x4A, 0x1B, 0x28, 0x4A, 0x5C] ∧
      segments.flatMap Segment.output = [0x1B, 0x28, 0x4A, 0xC2, 0xA5] ∧
      Encoding.iso2022Jp.decoder.Splits Encoding.iso2022Jp.decoder.start
        [0x1B, 0x28, 0x4A, 0x1B, 0x28, 0x4A, 0x5C] segments := by
  have bracket : Iso2022Jp.single? .ascii 0x28 = some '(' := by rfl
  have letter : Iso2022Jp.single? .ascii 0x4A = some 'J' := by rfl
  have yen : Iso2022Jp.single? .roman 0x5C = some '¥' := by rfl
  have made : (Iso2022Jp.decoder.made Iso2022Jp.decoder.start
      [0x1B, 0x28, 0x4A, 0x1B, 0x28, 0x4A, 0x5C]).bytes = [0x1B, 0x28, 0x4A, 0xC2, 0xA5] := by
    simp [Decoder.made, Decoder.segments, Iso2022Jp.read, Iso2022Jp.readEscape, Iso2022Jp.enter,
      Iso2022Jp.designated?, Iso2022Jp.startsEscape, bracket, letter, yen, Decoder.resume,
      Segment.marked]
    rfl
  rcases decoding_splits .iso2022Jp (by decide) [0x1B, 0x28, 0x4A, 0x1B, 0x28, 0x4A, 0x5C] with
    ⟨-, segments, splits, bytes, -, -, result, -⟩
  have output := made.symm.trans (bytes_made_of_result result)
  exact ⟨by decide, segments, bytes, output.symm, splits⟩

end WebSession

end LinkCharset
