import LinkCharset.Proofs.Encoding.SingleByte
import LinkCharset.Proofs.Session.Identity

/-! # Remote text in a single-byte encoding

Whether a conversion counts as one is seen from the input: it does just where some byte beyond ASCII
stands for a character. -/
namespace LinkCharset

theorem WebSession.transcode_singleByte (t : SingleByte) (input : Bytes) :
    (transcode webCodec (decoding (.singleByte t)) input).result =
        .ok ⟨input.flatMap t.decoded ++ [0]⟩ ∧
      (transcode webCodec (decoding (.singleByte t)) input).trace.copiedBytes =
        input.filter fun b => (t.char? b).isNone := by
  have made : ((Encoding.singleByte t).decoder.made (Encoding.singleByte t).decoder.start input).bytes =
      input.flatMap t.decoded := t.bytes_made input
  have copied : ((Encoding.singleByte t).decoder.made (Encoding.singleByte t).decoder.start
      input).copied = input.filter fun b => (t.char? b).isNone := t.copied_made input
  rcases transcode_decoding (.singleByte t) input with ⟨result, verbatim⟩
  rw [made] at result
  rw [copied] at verbatim
  exact ⟨result, verbatim⟩

namespace Session

variable {ω : Type} {k : Collaborators ω WebSession} (web : k.OpensWeb) {label : String}
  {t : SingleByte} (resolves : Encoding.ofLabel? label = some (.singleByte t))
include web resolves

/-- A single-byte encoding reads ASCII as it is, and every other byte as a character beyond ASCII or
as nothing. Text in it is decoded byte by byte, with each byte that stands for nothing copied in its
place. Remote text is left unchanged just where all its bytes beyond ASCII stand for nothing, which
in Windows-1252 is where it has none. -/
theorem single_bytes_are_decoded_one_by_one (input : Bytes) :
    (∀ b, isAscii b = true → t.char? b = some (Char.ofNat b.toNat)) ∧
    (∀ b c, 0x80 ≤ b.toNat → t.char? b = some c → 0x80 ≤ c.toNat ∧ c.toNat < 0x10000) ∧
    (∀ target, Encoding.ofLabel? target = some .utf8 →
      ∃ session, WebSession.open? label target = .ok (.openedDecoder t.name, session) ∧
        (transcode webCodec session input).result = .ok ⟨input.flatMap t.decoded ++ [0]⟩ ∧
        (transcode webCodec session input).trace.copiedBytes =
          input.filter fun b => (t.char? b).isNone) ∧
    ∀ s : Session ω WebSession, s.remoteSource? = some label →
      ((s.remoteToUtf8 k input).value = .error .unchanged ↔
        ∀ b ∈ input, 0x80 ≤ b.toNat → t.char? b = none) ∧
      ((s.remoteToUtf8 k input).value ≠ .error .unchanged →
        (s.remoteToUtf8 k input).value = .ok ⟨input.flatMap t.decoded ++ [0]⟩) ∧
      (t = .windows1252 → ((s.remoteToUtf8 k input).value = .error .unchanged ↔
        ∀ b ∈ input, isAscii b = true)) := by
  rcases WebSession.transcode_singleByte t input with ⟨result, copied⟩
  refine ⟨fun b => t.char?_of_ascii, fun b c => t.beyond_of_char?, ?_, ?_⟩
  · intro target output
    exact ⟨_, WebSession.open?_of_labels resolves output, result, copied⟩
  · intro s source
    have value := remoteToUtf8_of_result web resolves source result
    have unchanged : (s.remoteToUtf8 k input).value = .error .unchanged ↔
        input.flatMap t.decoded = input := by
      rw [value]
      split_ifs with same
      · simp [same]
      · simp [same]
    refine ⟨unchanged.trans (t.flatMap_decoded_eq_iff input), ?_, ?_⟩
    · intro changed
      rw [value, if_neg (unchanged.not.mp changed)]
    · rintro rfl
      exact unchanged.trans (SingleByte.flatMap_decoded_windows1252_iff input)

omit web resolves

/-- Greek text with two bytes that stand for nothing, which takes more than twice its length, one
such byte in ASCII, and Latin text. -/
theorem single_bytes_are_decoded_one_by_one_greek :
    Collaborators.standard.OpensWeb ∧
    Encoding.ofLabel? "windows-1253" = some (.singleByte .windows1253) ∧
    Encoding.ofLabel? "ascii" = some (.singleByte .windows1252) ∧
    (∃ session, WebSession.open? "windows-1253" "UTF-8" =
        .ok (.openedDecoder "windows-1253", session) ∧
      (transcode webCodec session [0xAA, 0x80, 0xD2, 0x99, 0x85]).result =
        .ok ⟨[0xAA, 0xE2, 0x82, 0xAC, 0xD2, 0xE2, 0x84, 0xA2, 0xE2, 0x80, 0xA6, 0]⟩ ∧
      (transcode webCodec session [0xAA, 0x80, 0xD2, 0x99, 0x85]).trace.copiedBytes = [0xAA, 0xD2]) ∧
    ((Session.new (.ofSettings [.encodingRemote "windows-1253"]) {}).remoteToUtf8
      Collaborators.standard [0xAA, 0x80, 0xD2, 0x99, 0x85]).value =
        .ok ⟨[0xAA, 0xE2, 0x82, 0xAC, 0xD2, 0xE2, 0x84, 0xA2, 0xE2, 0x80, 0xA6, 0]⟩ ∧
    ((Session.new (.ofSettings [.encodingRemote "windows-1253"]) {}).remoteToUtf8
      Collaborators.standard [0x61, 0xAA]).value = .error .unchanged ∧
    ((Session.new (.ofSettings [.encodingRemote "ascii"]) {}).remoteToUtf8
      Collaborators.standard [0x61, 0xAA]).value ≠ .error .unchanged := by
  have web := Collaborators.opensWeb_standard
  have greek : Encoding.ofLabel? "windows-1253" = some (.singleByte .windows1253) := by rfl
  have latin : Encoding.ofLabel? "ascii" = some (.singleByte .windows1252) := by rfl
  rcases single_bytes_are_decoded_one_by_one web greek [0xAA, 0x80, 0xD2, 0x99, 0x85] with
    ⟨-, -, opens, remote⟩
  rcases single_bytes_are_decoded_one_by_one web greek [0x61, 0xAA] with ⟨-, -, -, remote'⟩
  rcases single_bytes_are_decoded_one_by_one web latin [0x61, 0xAA] with ⟨-, -, -, remote''⟩
  have stands : SingleByte.windows1253.char? 0x80 = some '€' := by decide
  have nothing : SingleByte.windows1253.char? 0xAA = none := by decide
  refine ⟨web, greek, latin, opens "UTF-8" (by rfl), ?_, ?_, ?_⟩
  · apply (remote _ rfl).2.1
    rw [Ne, (remote _ rfl).1]
    intro none
    have lacks := none 0x80 (by simp) (by decide)
    rw [stands] at lacks
    cases lacks
  · rw [(remote' _ rfl).1]
    simp [nothing]
  · rw [Ne, (remote'' _ rfl).2.2 rfl]
    simp [isAscii]

end Session

end LinkCharset
