import LinkCharset.Proofs.Encoding.Ascii
import LinkCharset.Proofs.Session.Calls
import LinkCharset.Proofs.Session.Identity

/-! # ASCII hosts in a remote charset

Remote ASCII text comes out of its conversion as it went in, and so counts as unchanged. A host that
is to be converted first is given up at that point, before its ASCII form is asked for. -/
namespace LinkCharset

def Call.IsIdn : Call → Prop
  | .toAscii _ | .toUnicode _ => True
  | _ => False

theorem Call.not_isIdn_of_isUse {call : Call} (use : call.IsUse) : ¬ call.IsIdn := by
  cases call <;> simp_all [IsUse, IsIdn]

namespace WebSession

variable {e : Encoding} (narrow : ∀ order, e ≠ .utf16 order) (readable : e ≠ .replacement)
  {input : Bytes} (ascii : ∀ b ∈ input, isAscii b = true)
  (plain : e = .iso2022Jp → ∀ escape ∈ Iso2022Jp.designations, ¬ escape <:+: input)
include narrow readable ascii

theorem made_ascii (fixed : e ≠ .iso2022Jp) :
    e.decoder.made e.decoder.start input = Marked.converted input :=
  (Encoding.readsAscii narrow readable fixed).made ascii

include plain

theorem result_ascii : (transcode webCodec (decoding e) input).result = .ok ⟨input ++ [0]⟩ := by
  have made : (e.decoder.made e.decoder.start input).bytes = input := by
    by_cases fixed : e = .iso2022Jp
    · subst fixed
      exact Iso2022Jp.bytes_made_of_undesignated (plain rfl)
    · rw [made_ascii narrow readable ascii fixed, Marked.bytes_converted]
  rw [(transcode_decoding e input).1, made]

end WebSession

namespace Session

section Idn

variable {ω σ : Type} {k : Collaborators ω σ} {s : Session ω σ} {host : Bytes} {e : TranscodeError}

theorem idnEncode_of_error (fails : (s.remoteToUtf8 k host).value = .error e) :
    (s.idnEncode k host false).value = .error (.transcode e) ∧
      (s.idnEncode k host false).trace = (s.remoteToUtf8 k host).trace := by
  rw [idnEncode, if_neg (by simp), Outcome.andThen, fails]
  simp

theorem not_isIdn_remoteToUtf8 (k : Collaborators ω σ) (s : Session ω σ) (input : Bytes) :
    ∀ call ∈ (s.remoteToUtf8 k input).trace.calls, ¬ call.IsIdn := by
  have visit := s.opensAndCloses_remoteToUtf8 k input
  unfold OpensAndCloses at visit
  split at visit
  · simp [visit]
  · rcases visit with refused | ⟨uses, use, calls⟩
    · simp [refused, Call.IsIdn]
    · rw [calls]
      simp only [List.cons_append, List.mem_cons, List.mem_append, List.not_mem_nil, or_false]
      rintro call (rfl | used | rfl)
      · exact id
      · exact Call.not_isIdn_of_isUse (use call used)
      · exact id

end Idn

variable {ω : Type} {k : Collaborators ω WebSession} (web : k.OpensWeb) {label : String}
  {e : Encoding} (resolves : Encoding.ofLabel? label = some e)
include web resolves

/-- ASCII passes through every decoder but those of UTF-16 and the replacement, and through that of
ISO-2022-JP as long as it holds no sequence that designates a mode, whatever else it holds of one.
So remote ASCII text counts as unchanged, and a host of that kind fails before its ASCII form is
asked for. -/
theorem ascii_is_transparent (narrow : ∀ order, e ≠ .utf16 order) (readable : e ≠ .replacement)
    {input : Bytes} (ascii : ∀ b ∈ input, isAscii b = true)
    (plain : e = .iso2022Jp → ∀ escape ∈ Iso2022Jp.designations, ¬ escape <:+: input) :
    (∀ target, Encoding.ofLabel? target = some .utf8 →
      ∃ session, WebSession.open? label target = .ok (.openedDecoder e.name, session) ∧
        (transcode webCodec session input).result = .ok ⟨input ++ [0]⟩ ∧
        (e ≠ .iso2022Jp → (transcode webCodec session input).trace.copiedBytes = [])) ∧
    ∀ s : Session ω WebSession, s.remoteSource? = some label →
      (s.remoteToUtf8 k input).value = .error .unchanged ∧
      (s.idnEncode k input false).value = .error (.transcode .unchanged) ∧
      ∀ call ∈ (s.idnEncode k input false).trace.calls, ¬ call.IsIdn := by
  have result := WebSession.result_ascii narrow readable ascii plain
  constructor
  · intro target output
    refine ⟨_, WebSession.open?_of_labels resolves output, result, fun fixed => ?_⟩
    rw [(WebSession.transcode_decoding e input).2,
      WebSession.made_ascii narrow readable ascii fixed, Marked.copied_converted]
  · intro s source
    have unchanged : (s.remoteToUtf8 k input).value = .error .unchanged := by
      rw [remoteToUtf8_of_result web resolves source result, if_pos rfl]
    rcases idnEncode_of_error unchanged with ⟨value, trace⟩
    refine ⟨unchanged, value, ?_⟩
    rw [trace]
    exact not_isIdn_remoteToUtf8 k s input

omit web resolves

/-- Bytes that shift, and escape bytes that are followed by another one, by the start of a
designation, by one that no mode has, and by nothing. -/
theorem ascii_is_transparent_broken_escapes :
    Collaborators.standard.OpensWeb ∧
    Encoding.ofLabel? "iso-2022-jp" = some .iso2022Jp ∧
    (∀ order, Encoding.iso2022Jp ≠ .utf16 order) ∧ Encoding.iso2022Jp ≠ .replacement ∧
    (∀ b ∈ [0x61, 0x0E, 0x1B, 0x1B, 0x28, 0x0F, 0x1B, 0x24, 0x41, 0x1B], isAscii b = true) ∧
    (∀ escape ∈ Iso2022Jp.designations,
      ¬ escape <:+: [0x61, 0x0E, 0x1B, 0x1B, 0x28, 0x0F, 0x1B, 0x24, 0x41, 0x1B]) ∧
    (∃ session, WebSession.open? "iso-2022-jp" "UTF-8" =
        .ok (.openedDecoder "ISO-2022-JP", session) ∧
      (transcode webCodec session
        [0x61, 0x0E, 0x1B, 0x1B, 0x28, 0x0F, 0x1B, 0x24, 0x41, 0x1B]).result =
          .ok ⟨[0x61, 0x0E, 0x1B, 0x1B, 0x28, 0x0F, 0x1B, 0x24, 0x41, 0x1B, 0]⟩) ∧
    ((Session.new (.ofSettings [.encodingRemote "iso-2022-jp"]) {}).idnEncode
      Collaborators.standard [0x61, 0x0E, 0x1B, 0x1B, 0x28, 0x0F, 0x1B, 0x24, 0x41, 0x1B]
        false).value = .error (.transcode .unchanged) := by
  have web := Collaborators.opensWeb_standard
  have resolves : Encoding.ofLabel? "iso-2022-jp" = some .iso2022Jp := by rfl
  have narrow : ∀ order, Encoding.iso2022Jp ≠ .utf16 order := by simp
  have readable : Encoding.iso2022Jp ≠ .replacement := by decide
  have ascii : ∀ b ∈ [0x61, 0x0E, 0x1B, 0x1B, 0x28, 0x0F, 0x1B, 0x24, 0x41, 0x1B],
      isAscii b = true := by simp [isAscii]
  have plain : ∀ escape ∈ Iso2022Jp.designations,
      ¬ escape <:+: [0x61, 0x0E, 0x1B, 0x1B, 0x28, 0x0F, 0x1B, 0x24, 0x41, 0x1B] := by decide
  rcases ascii_is_transparent web resolves narrow readable ascii (fun _ => plain) with
    ⟨opens, remote⟩
  rcases opens "UTF-8" (by rfl) with ⟨session, opened, result, -⟩
  exact ⟨web, resolves, narrow, readable, ascii, plain, ⟨session, opened, result⟩,
    (remote _ rfl).2.1⟩

end Session

end LinkCharset
