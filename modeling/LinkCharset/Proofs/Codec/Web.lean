import LinkCharset.Codec.Web
import LinkCharset.Proofs.Encoding.Decoders
import LinkCharset.Proofs.Encoding.Encoders

/-! # The codecs of the web come to one output

What a conversion between two encodings writes is settled when it is opened: neither the sizes of
the slices that its calls are offered nor the growths between them make a difference. -/
namespace LinkCharset

namespace WebSession

open Iso2022Jp (isShiftControl)

/-- Whether a conversion under way fits what is left of its input. -/
def Fits : WebSession → Bytes → Prop
  | decode source mode => source.Fits mode
  | encode _ _ => fun _ => True

/-- Whether it would report every character of an input as what it is. -/
def IsFrank : WebSession → Bytes → Prop
  | decode _ _ => fun _ => True
  | encode target _ => target.encoder.IsFrank

def made : WebSession → Bytes → Marked
  | decode source mode => source.decoder.made mode
  | encode target state => target.encoder.made state

def due : WebSession → Bytes → ℕ
  | decode _ _ => fun _ => 0
  | encode target state => target.encoder.due state

theorem due_le_one (s : WebSession) (left : Bytes) : s.due left ≤ 1 := by
  cases s with
  | decode source mode => exact Nat.zero_le 1
  | encode target state => exact Encoder.due_le_one state left

theorem spends {s : WebSession} {left : Bytes} (room : ℕ) (fits : s.Fits left) :
    Spends Fits due s left room (s.convert left room) := by
  cases s with
  | decode source mode => exact source.decoder_sound.spends fits room
  | encode target state => exact target.encoder_lawful.spends state left room

theorem spends_frankly {s : WebSession} {left : Bytes} (room : ℕ) (fits : s.Fits left ∧ s.IsFrank left) :
    Spends (fun s left => s.Fits left ∧ s.IsFrank left) due s left room (s.convert left room) := by
  cases s with
  | decode source mode =>
    have keeps : Spends (fun mode left => source.Fits mode left ∧ True) (fun _ _ => 0) mode left room
        (source.decoder.convert mode left room) :=
      (source.decoder_sound.spends fits.1 room).imp fun _ _ fits => ⟨fits, trivial⟩
    exact keeps
  | encode target state =>
    have keeps : Spends (fun _ left => True ∧ target.encoder.IsFrank left) target.encoder.due state left
        room (target.encoder.convert state left room) :=
      (target.encoder_lawful.spends state left room).imp fun _ n _ => ⟨trivial, fits.2.drop n⟩
    exact keeps

theorem renders {s : WebSession} {left : Bytes} (room : ℕ) (fits : s.Fits left ∧ s.IsFrank left) :
    Renders made s left (s.convert left room) := by
  cases s with
  | decode source mode => exact source.decoder_sound.renders fits.1 room
  | encode target state => exact target.encoder_lawful.renders state fits.2 room

theorem closing_start (target : Encoding) : target.encoder.closing? target.encoder.start = none := by
  cases target <;> rfl

theorem made_nil_decoding (e : Encoding) : (decoding e).made [] = [] := Decoder.made_nil

theorem made_nil_encoding (e : Encoding) : (encoding e).made [] = [] := by
  change e.encoder.made e.encoder.start [] = []
  rw [Encoder.made, closing_start]

theorem session_cases {source target : String} {event : Event} {session : WebSession}
    (opened : open? source target = .ok (event, session)) :
    ∃ e, session = decoding e ∨ session = encoding e := by
  rw [open?] at opened
  split at opened
  · split_ifs at opened
    · cases opened
      exact ⟨_, .inl rfl⟩
    · cases opened
      exact ⟨_, .inr rfl⟩
  · cases opened

theorem fits_of_open {source target : String} {event : Event} {session : WebSession}
    (opened : open? source target = .ok (event, session)) (input : Bytes) :
    session.Fits input ∧ session.made [] = [] := by
  rcases session_cases opened with ⟨e, rfl | rfl⟩
  · exact ⟨e.decoder_sound.start input, made_nil_decoding e⟩
  · exact ⟨trivial, made_nil_encoding e⟩

theorem isFrank_of_open {source target : String} {event : Event} {session : WebSession}
    (opened : open? source target = .ok (event, session)) {input : Bytes}
    (plain : session = encoding .iso2022Jp → ∀ b ∈ input, isShiftControl b.toNat = false) :
    session.IsFrank input := by
  rcases session_cases opened with ⟨e, rfl | rfl⟩
  · trivial
  · exact Encoding.isFrank fun jp => plain (by rw [jp])

end WebSession

def webPacing : Pacing webCodec where
  Fits := WebSession.Fits
  due := WebSession.due
  due_le_one := WebSession.due_le_one
  spends _ _ room fits := WebSession.spends room fits

def webRendering : Rendering webCodec where
  Fits s left := s.Fits left ∧ s.IsFrank left
  due := WebSession.due
  due_le_one := WebSession.due_le_one
  spends _ _ room fits := WebSession.spends_frankly room fits
  made := WebSession.made
  renders _ _ room fits := WebSession.renders room fits

theorem callLimit_webCodec (session : WebSession) (input : Bytes) :
    12 * input.length + 12 ≤ webCodec.callLimit session input.length := by
  change _ ≤ 16 * input.length + 16
  omega

namespace WebSession

open Iso2022Jp (isShiftControl)

theorem transcode_eq {session : WebSession} {input : Bytes}
    (fits : session.Fits input ∧ session.IsFrank input) (nothing : session.made [] = []) :
    (transcode webCodec session input).result = .ok ⟨(session.made input).bytes ++ [0]⟩ ∧
      (transcode webCodec session input).trace.copiedBytes = (session.made input).copied :=
  webRendering.transcode_eq fits (fun empty => empty ▸ nothing) (callLimit_webCodec session input)

theorem transcode_decoding (e : Encoding) (input : Bytes) :
    (transcode webCodec (decoding e) input).result =
        .ok ⟨(e.decoder.made e.decoder.start input).bytes ++ [0]⟩ ∧
      (transcode webCodec (decoding e) input).trace.copiedBytes =
        (e.decoder.made e.decoder.start input).copied :=
  transcode_eq ⟨e.decoder_sound.start input, trivial⟩ (made_nil_decoding e)

theorem transcode_encoding (e : Encoding) (input : Bytes)
    (plain : e = .iso2022Jp → ∀ b ∈ input, isShiftControl b.toNat = false) :
    (transcode webCodec (encoding e) input).result =
        .ok ⟨(e.encoder.made e.encoder.start input).bytes ++ [0]⟩ ∧
      (transcode webCodec (encoding e) input).trace.copiedBytes =
        (e.encoder.made e.encoder.start input).copied := by
  have fits : (encoding e).Fits input ∧ (encoding e).IsFrank input := ⟨trivial, Encoding.isFrank plain⟩
  exact transcode_eq fits (made_nil_encoding e)

theorem bytes_made_of_result {e : Encoding} {input output : Bytes}
    (result : (transcode webCodec (decoding e) input).result = .ok ⟨output ++ [0]⟩) :
    (e.decoder.made e.decoder.start input).bytes = output := by
  rw [(transcode_decoding e input).1] at result
  exact List.append_cancel_right (Transcoded.mk.inj (Except.ok.inj result))

/-- Conversions through a block that grows, through any single block that does not run full, and
through slices of any sizes all come to the same output; and as long as there is room for a
character every now and then, they come to an end. This is so wherever the codec reports each
character as what it is: from an input with a shift control, ISO-2022-JP goes back to a place that
depends on where the last call began. -/
theorem output_independent_of_room {source target : String} {event : Event} {session : WebSession}
    (opened : open? source target = .ok (event, session)) (input : Bytes)
    (plain : session = encoding .iso2022Jp → ∀ b ∈ input, isShiftControl b.toNat = false) :
    ∃ output : Bytes,
      (transcode webCodec session input).result = .ok ⟨output ++ [0]⟩ ∧
      (∀ block : Bytes, output.length + charRoom ≤ block.length →
        inOneBlock webCodec session input block = some output) ∧
      (∀ block filled : Bytes, inOneBlock webCodec session input block = some filled →
        filled = output ∧ output.length ≤ block.length) ∧
      (∀ moves : List Move, webCodec.Makes session input moves →
        Move.outcome [] moves = .ok ⟨output ++ [0]⟩) ∧
      ∀ slices : ℕ → Bytes, (∀ n, ∃ k, n ≤ k ∧ charRoom ≤ (slices k).length) →
        ∃ moves : List Move, webCodec.Makes session input moves ∧
          ∀ (n : ℕ) (m : Move), moves[n]? = some m → m.offered = slices n := by
  rcases fits_of_open opened input with ⟨fits, nothing⟩
  have frankly : webRendering.Fits session input := ⟨fits, isFrank_of_open opened plain⟩
  refine ⟨(session.made input).bytes, (transcode_eq frankly nothing).1, ?_, ?_, ?_, ?_⟩
  · intro block roomy
    exact webRendering.inOneBlock_eq frankly roomy
  · intro block filled ends
    rcases webRendering.eq_of_inOneBlock frankly ends with ⟨rfl, within⟩
    exact ⟨rfl, within⟩
  · intro moves makes
    exact webRendering.outcome_eq frankly makes []
  · intro slices ample
    rcases ample 0 with ⟨k, -, roomy⟩
    exact webPacing.exists_moves fits slices ample k roomy

/-- A yen sign, a backslash, a byte that is none of them and an overline, each behind a shift but
the third, into one block and into slices of no byte up to five bytes in turn. -/
theorem output_independent_of_room_roman :
    ∃ (session : WebSession) (moves : List Move),
      open? "utf-8" "iso-2022-jp" = .ok (.openedEncoder "ISO-2022-JP", session) ∧
      (∀ b ∈ [0xC2, 0xA5, 0x5C, 0x80, 0xE2, 0x80, 0xBE], isShiftControl (UInt8.toNat b) = false) ∧
      inOneBlock webCodec session [0xC2, 0xA5, 0x5C, 0x80, 0xE2, 0x80, 0xBE] (List.replicate 21 0) =
        some [0x1B, 0x28, 0x4A, 0x5C, 0x1B, 0x28, 0x42, 0x5C, 0x80, 0x1B, 0x28, 0x4A, 0x7E, 0x1B, 0x28,
          0x42] ∧
      webCodec.Makes session [0xC2, 0xA5, 0x5C, 0x80, 0xE2, 0x80, 0xBE] moves ∧
      Move.outcome [] moves = .ok ⟨[0x1B, 0x28, 0x4A, 0x5C, 0x1B, 0x28, 0x42, 0x5C, 0x80, 0x1B, 0x28,
        0x4A, 0x7E, 0x1B, 0x28, 0x42, 0]⟩ ∧
      ∀ (n : ℕ) (m : Move), moves[n]? = some m → m.offered.length = n % 6 := by
  have opened : open? "utf-8" "iso-2022-jp" =
      .ok (.openedEncoder "ISO-2022-JP", encoding .iso2022Jp) := by rfl
  have plain : ∀ b ∈ [0xC2, 0xA5, 0x5C, 0x80, 0xE2, 0x80, 0xBE],
      isShiftControl (UInt8.toNat b) = false := by
    simp [isShiftControl]
  have filled : inOneBlock webCodec (encoding .iso2022Jp) [0xC2, 0xA5, 0x5C, 0x80, 0xE2, 0x80, 0xBE]
      (List.replicate 21 0) = some [0x1B, 0x28, 0x4A, 0x5C, 0x1B, 0x28, 0x42, 0x5C, 0x80, 0x1B, 0x28,
        0x4A, 0x7E, 0x1B, 0x28, 0x42] := by decide +kernel
  rcases output_independent_of_room opened [0xC2, 0xA5, 0x5C, 0x80, 0xE2, 0x80, 0xBE] fun _ => plain with
    ⟨output, -, -, inBlock, inSlices, ends⟩
  obtain rfl := (inBlock _ _ filled).1
  obtain ⟨moves, makes, offered⟩ := ends (fun n => List.replicate (n % 6) 0) fun n =>
    ⟨6 * n + 5, by omega, by rw [List.length_replicate, charRoom]; omega⟩
  refine ⟨_, moves, opened, plain, filled, makes, inSlices moves makes, fun n m at_n => ?_⟩
  rw [offered n m at_n, List.length_replicate]

/-- A shift control behind two yen signs and two backslashes. The block that grows makes a call
start shortly before it, which goes back to before its own input and so to the end of it; in a
single block there is but one call, which goes back into the second yen sign. -/
theorem growth_changes_output :
    open? "utf-8" "iso-2022-jp" = .ok (.openedEncoder "ISO-2022-JP", encoding .iso2022Jp) ∧
    (transcode webCodec (encoding .iso2022Jp) [0xC2, 0xA5, 0x5C, 0xC2, 0xA5, 0x5C, 0x0E]).result =
      .ok ⟨[0x1B, 0x28, 0x4A, 0x5C, 0x1B, 0x28, 0x42, 0x5C, 0x1B, 0x28, 0x4A, 0x5C, 0x1B, 0x28, 0x42,
        0x5C, 0]⟩ ∧
    inOneBlock webCodec (encoding .iso2022Jp) [0xC2, 0xA5, 0x5C, 0xC2, 0xA5, 0x5C, 0x0E]
        (List.replicate 64 0) =
      some [0x1B, 0x28, 0x4A, 0x5C, 0x1B, 0x28, 0x42, 0x5C, 0x1B, 0x28, 0x4A, 0x5C, 0x1B, 0x28, 0x42,
        0x5C, 0xA5, 0x5C] :=
  ⟨by rfl, by decide +kernel, by decide +kernel⟩

end WebSession

end LinkCharset
