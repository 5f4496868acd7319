import LinkCharset.Proofs.Session.History

/-! # What the replacement encoding loses

The replacement decoder reports its first byte as malformed and takes whatever follows for read. A
run copies the one byte and ends well, so that the rest of the input is lost without a failure. -/
namespace LinkCharset

namespace Replacement

theorem made_spent (left : Bytes) : decoder.made .spent left = [] := by
  cases left with
  | nil => exact Decoder.made_nil
  | cons b rest =>
    have reads : decoder.read .spent b rest = .text [] (rest.length + 1) .spent := rfl
    rw [Decoder.made_of_text reads, Nat.add_sub_cancel, List.drop_length]
    exact Decoder.made_nil

theorem made_start (input : Bytes) : decoder.made decoder.start input = .verbatim (input.take 1) := by
  cases input with
  | nil => exact Decoder.made_nil
  | cons b rest =>
    have reads : decoder.read .fresh b rest = .malformed 1 0 .spent := rfl
    have stays : decoder.resume 1 0 .spent = .spent := rfl
    change decoder.made .fresh (b :: rest) = _
    rw [Decoder.made_of_malformed reads, stays, made_spent]
    rfl

end Replacement

theorem WebSession.transcode_replacement (input : Bytes) :
    (transcode webCodec (decoding .replacement) input).result = .ok ⟨input.take 1 ++ [0]⟩ ∧
      (transcode webCodec (decoding .replacement) input).trace.copiedBytes = input.take 1 := by
  have made : Encoding.replacement.decoder.made Encoding.replacement.decoder.start input =
      .verbatim (input.take 1) := Replacement.made_start input
  rcases transcode_decoding .replacement input with ⟨result, copied⟩
  rw [made, Marked.bytes_verbatim] at result
  rw [made, Marked.copied_verbatim] at copied
  exact ⟨result, copied⟩

namespace Session

variable {ω : Type} {k : Collaborators ω WebSession} (web : k.OpensWeb) {label : String}
  (isReplaced : Encoding.ofLabel? label = some .replacement)
include web isReplaced

/-- Remote text is cut to its first byte, and said to have been converted if that changes it. -/
theorem remoteToUtf8_replacement {s : Session ω WebSession} (source : s.remoteSource? = some label)
    (input : Bytes) :
    (s.remoteToUtf8 k input).value =
      if input.length ≤ 1 then .error .unchanged else .ok ⟨input.take 1 ++ [0]⟩ := by
  rw [remoteToUtf8_of_result web isReplaced source (WebSession.transcode_replacement input).1]
  simp only [List.take_eq_self_iff]

theorem convertAnew_replacement (world : ω) (input : Bytes) :
    k.convertAnew world label input = .converted (input.take 1) := by
  rw [Collaborators.convertAnew, opened_decoding web isReplaced, web.codec]
  dsimp only
  rw [(WebSession.transcode_replacement input).1, Converted.ofResult, Transcoded.bytes_mk]

/-- Under a label of the replacement encoding nothing is kept of a text but its first byte. The
conversion to UTF-8 is opened and ends well, and a session takes what it gives for the whole text,
be it remote or local. So only a text of at most one byte comes through. -/
theorem replaced_text_is_lost (input : Bytes) :
    (∀ target, Encoding.ofLabel? target = some .utf8 →
      ∃ session, WebSession.open? label target = .ok (.openedDecoder "replacement", session) ∧
        (transcode webCodec session input).result = .ok ⟨input.take 1 ++ [0]⟩ ∧
        (transcode webCodec session input).trace.copiedBytes = input.take 1 ∧
        ((transcode webCodec session input).result = .ok ⟨input ++ [0]⟩ ↔ input.length ≤ 1)) ∧
    (∀ s : Session ω WebSession, s.remoteSource? = some label →
      (s.remoteToUtf8 k input).value =
        if input.length ≤ 1 then .error .unchanged else .ok ⟨input.take 1 ++ [0]⟩) ∧
    ∀ (options : Options) (world : ω) (history : List Operation) (s : Session ω WebSession),
      s = ((Session.new options world).performAll k history).2 →
      (s.resolveLocale k).value = some label →
        (s.localeToUtf8 k input).value = .converted (input.take 1) := by
  refine ⟨?_, ?_, ?_⟩
  · intro target output
    rcases WebSession.transcode_replacement input with ⟨result, copied⟩
    refine ⟨_, WebSession.open?_of_labels isReplaced output, result, copied, ?_⟩
    rw [result]
    simp [List.take_eq_self_iff]
  · intro s source
    exact remoteToUtf8_replacement web isReplaced source input
  · intro options world history s reached resolved
    have keeps : KeepsOpened k s.cached := reached ▸ keepsOpened_performAll k options world history
    have foreign : isUtf8Label label = false := by
      rw [isUtf8Label, isReplaced]
      rfl
    rw [value_localeToUtf8 web.restart keeps world, resolved]
    dsimp only
    rw [foreign, if_neg (by simp), convertAnew_replacement web isReplaced]

omit web isReplaced

/-- Two letters in the Korean encoding that the replacement stands for. -/
theorem replaced_text_is_lost_korean :
    Collaborators.standard.OpensWeb ∧ Encoding.ofLabel? "iso-2022-kr" = some .replacement ∧
    (∃ session, WebSession.open? "iso-2022-kr" "UTF-8" =
        .ok (.openedDecoder "replacement", session) ∧
      (transcode webCodec session [0x61, 0x62]).result = .ok ⟨[0x61, 0]⟩) ∧
    ((Session.new (.ofSettings [.encodingRemote "iso-2022-kr"]) {}).remoteToUtf8
      Collaborators.standard [0x61, 0x62]).value = .ok ⟨[0x61, 0]⟩ ∧
    ((Session.new (.ofSettings [.locale "iso-2022-kr"]) {}).localeToUtf8
      Collaborators.standard [0x61, 0x62]).value = .converted [0x61] := by
  have web := Collaborators.opensWeb_standard
  have isReplaced : Encoding.ofLabel? "iso-2022-kr" = some .replacement := by rfl
  rcases replaced_text_is_lost web isReplaced [0x61, 0x62] with ⟨opens, remote, afterwards⟩
  rcases opens "UTF-8" (by rfl) with ⟨session, opened, result, -⟩
  refine ⟨web, isReplaced, ⟨session, opened, result⟩, ?_, ?_⟩
  · exact remote _ rfl
  · exact afterwards (.ofSettings [.locale "iso-2022-kr"]) {} [] _ rfl rfl

/-- It is not so that a text under such a label is either refused or copied through. -/
theorem replaced_text_is_not_kept :
    ¬ ∀ (label : String) (input : Bytes), Encoding.ofLabel? label = some .replacement →
      (∃ cause, WebSession.open? label utf8Label = .error cause) ∨
        ∃ event session, WebSession.open? label utf8Label = .ok (event, session) ∧
          (transcode webCodec session input).result = .ok ⟨input ++ [0]⟩ := by
  intro kept
  have opened : WebSession.open? "iso-2022-kr" utf8Label =
      .ok (.openedDecoder "replacement", .decoding .replacement) := by rfl
  rcases kept "iso-2022-kr" [0x61, 0x62] (by rfl) with ⟨cause, refused⟩ | ⟨event, session, opens, result⟩
  · rw [opened] at refused
    cases refused
  · rw [opened] at opens
    cases opens
    rw [(WebSession.transcode_replacement [0x61, 0x62]).1] at result
    cases result

end Session

end LinkCharset
