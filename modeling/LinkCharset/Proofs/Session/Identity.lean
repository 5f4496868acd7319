import LinkCharset.Proofs.Codec.Splitting
import LinkCharset.Proofs.Session.Cache
import LinkCharset.Session.Standard

/-! # UTF-8 stays as it is

Decoding UTF-8 copies what is ill-formed byte by byte and writes every character as the bytes that
it was read from. So a conversion from UTF-8 to UTF-8 is the identity on all byte strings, and a
session that leaves such text alone gives what it would get by converting it. -/
namespace LinkCharset

namespace Utf8

/-- Every piece of an input is written as it stands there, the ill-formed ones included. -/
theorem output_eq_bytes {mode : Range} {left : Bytes} (fits : Fits mode left) :
    ∀ s ∈ decoder.segments mode left, s.output = s.bytes := by
  fun_induction Decoder.segments decoder mode left with
  | case1 mode => simp
  | case2 mode b rest chars length next reads ih =>
    rcases sound.text fits reads with ⟨-, -, -, -, later⟩
    obtain rfl : mode = anyContinuation := fits (List.cons_ne_nil _ _)
    change read anyContinuation b rest = _ at reads
    refine List.forall_mem_cons.mpr ⟨?_, ih later⟩
    cases stops : front b rest with
    | char c n =>
      rw [read_of_char stops] at reads
      cases reads
      rw [Segment.output, Segment.bytes, encode_singleton, encodeChar_of_front stops]
    | illFormed n truncated =>
      rcases read_of_illFormed stops with ⟨_, malformed, -⟩
      rw [malformed] at reads
      cases reads
  | case3 mode b rest bad extra next reads ih =>
    rcases sound.malformed fits reads with ⟨-, later⟩
    exact List.forall_mem_cons.mpr ⟨rfl, ih later⟩
  | case4 mode b rest bad extra earlier next reads => exact (sound.punctual fits reads).elim

theorem bytes_made (input : Bytes) : (decoder.made decoder.start input).bytes = input := by
  have fits : Fits decoder.start input := sound.start input
  rw [Decoder.made, Marked.bytes_flatMap]
  simp only [Segment.bytes_marked]
  rw [List.flatMap_congr (output_eq_bytes fits)]
  exact (sound.splits fits).flatMap_bytes

end Utf8

theorem WebSession.result_utf8 (input : Bytes) :
    (transcode webCodec (decoding .utf8) input).result = .ok ⟨input ++ [0]⟩ := by
  have made : (Encoding.utf8.decoder.made Encoding.utf8.decoder.start input).bytes = input :=
    Utf8.bytes_made input
  rw [(transcode_decoding .utf8 input).1, made]

/-- Collaborators that open the codecs of the web, whatever else they do. -/
structure Collaborators.OpensWeb {ω : Type} (k : Collaborators ω WebSession) : Prop where
  codec : k.codec = webCodec
  opens : ∀ world source target, (k.openSession world source target).1 = (openWeb source target).1

theorem Collaborators.opensWeb_standard : standard.OpensWeb where
  codec := rfl
  opens world source target := by dsimp only [standard]

namespace Session

variable {ω : Type} {k : Collaborators ω WebSession} (web : k.OpensWeb) {label : String}

section Decoding

variable {e : Encoding} (resolves : Encoding.ofLabel? label = some e)
include web resolves

theorem opened_decoding (world : ω) :
    (k.openSession world label utf8Label).1 = .ok (.decoding e) := by
  have opened := WebSession.open?_of_labels resolves (show Encoding.ofLabel? utf8Label = _ by rfl)
  rw [web.opens, Collaborators.openWeb, opened]

theorem remoteToUtf8_decoding {s : Session ω WebSession} (source : s.remoteSource? = some label)
    (input : Bytes) :
    (s.remoteToUtf8 k input).value =
      (judgeRemote label input (transcode webCodec (.decoding e) input).result).1 := by
  rw [remoteToUtf8]
  rw [source]
  simp only [opened_decoding web resolves, web.codec]

theorem remoteToUtf8_of_result {s : Session ω WebSession} (source : s.remoteSource? = some label)
    {input output : Bytes}
    (result : (transcode webCodec (.decoding e) input).result = .ok ⟨output ++ [0]⟩) :
    (s.remoteToUtf8 k input).value =
      if output = input then .error .unchanged else .ok ⟨output ++ [0]⟩ := by
  rw [remoteToUtf8_decoding web resolves source, result]
  simp only [judgeRemote, Transcoded.bytes_mk]
  split_ifs <;> rfl

end Decoding

variable (isUtf8 : Encoding.ofLabel? label = some .utf8)
include web isUtf8

theorem remoteToUtf8_utf8 {s : Session ω WebSession} (source : s.remoteSource? = some label)
    (input : Bytes) : (s.remoteToUtf8 k input).value = .error .unchanged := by
  rw [remoteToUtf8_of_result web isUtf8 source (WebSession.result_utf8 input), if_pos rfl]

theorem openLocale_utf8 (s : Session ω WebSession) :
    (s.openLocale k label).value = some (.decoding .utf8) := by
  rw [openLocale]
  simp only [opened_decoding web isUtf8]

/-- A session that keeps no codec for UTF-8 would open one, and get back any input from it. -/
theorem localeThroughCodec_utf8 {s : Session ω WebSession} (keeps : s.KeepsForeign)
    (input : Bytes) : (s.localeThroughCodec k label input).value = .converted input := by
  have opened : (s.localeCodec k label).value = some (.decoding .utf8) := by
    rw [localeCodec]
    cases kept : s.cached with
    | none => exact openLocale_utf8 web isUtf8 s
    | some cached =>
      have other : cached.locale ≠ label := by
        intro same
        have foreign := keeps cached kept
        rw [same, isUtf8Label, isUtf8] at foreign
        cases foreign
      dsimp only
      rw [if_neg other]
      exact openLocale_utf8 web isUtf8 _
  have reset : webCodec.reset (.decoding .utf8) = .decoding .utf8 := rfl
  unfold localeThroughCodec Outcome.andThen
  rw [opened]
  simp only [convertLocale, web.codec, reset, WebSession.result_utf8, Transcoded.bytes_mk]

/-- From UTF-8 to UTF-8 every byte string stays as it is, well-formed or not. So remote text under
any label of UTF-8 counts as unchanged, and whatever a session has done before, it gives for local
text under such a label, which it leaves alone, what a codec would have given. -/
theorem utf8_stays_as_it_is (input : Bytes) :
    (∀ target, Encoding.ofLabel? target = some .utf8 →
      ∃ session, WebSession.open? label target = .ok (.openedDecoder "UTF-8", session) ∧
        (transcode webCodec session input).result = .ok ⟨input ++ [0]⟩) ∧
    (∀ s : Session ω WebSession, s.remoteSource? = some label →
      (s.remoteToUtf8 k input).value = .error .unchanged) ∧
    ∀ (options : Options) (world : ω) (history : List Operation) (s : Session ω WebSession),
      s = ((Session.new options world).performAll k history).2 →
      (s.resolveLocale k).value = some label →
        (s.localeToUtf8 k input).value = .asIs ∧
          ((s.resolveLocale k).session.localeThroughCodec k label input).value =
            .converted input := by
  refine ⟨?_, ?_, ?_⟩
  · intro target output
    exact ⟨_, WebSession.open?_of_labels isUtf8 output, WebSession.result_utf8 input⟩
  · intro s source
    exact remoteToUtf8_utf8 web isUtf8 source input
  · intro options world history s reached resolved
    have fresh : (Session.new options world : Session ω WebSession).KeepsForeign := by
      intro cached kept
      cases kept
    have keeps : s.KeepsForeign := by
      rw [reached]
      exact keepsForeign_performAll k _ fresh history
    constructor
    · unfold localeToUtf8 Outcome.andThen
      rw [resolved]
      dsimp only
      rw [if_pos (by rw [isUtf8Label, isUtf8]; rfl)]
    · exact localeThroughCodec_utf8 web isUtf8 (keeps.of_cached_eq (s.cached_resolveLocale k)) input

omit web isUtf8

/-- Text with a cut-off character, a stray byte and a surrogate, in a session that has converted
from another local charset before. -/
theorem utf8_stays_as_it_is_after_latin1 :
    Collaborators.standard.OpensWeb ∧ Encoding.ofLabel? "utf8" = some .utf8 ∧
    ∃ s : Session LocaleVariables WebSession,
      s = ((Session.new (.ofSettings [.locale "latin1", .encodingRemote "utf8"])
        {}).performAll Collaborators.standard [.localeToUtf8 [0xE9], .setLocale (some "utf8")]).2 ∧
      (s.remoteToUtf8 Collaborators.standard [0xE2, 0x82, 0xFF, 0xED, 0xA0, 0x80]).value =
        .error .unchanged ∧
      (s.localeToUtf8 Collaborators.standard [0xE2, 0x82, 0xFF, 0xED, 0xA0, 0x80]).value = .asIs ∧
      ((s.resolveLocale Collaborators.standard).session.localeThroughCodec Collaborators.standard
        "utf8" [0xE2, 0x82, 0xFF, 0xED, 0xA0, 0x80]).value =
        .converted [0xE2, 0x82, 0xFF, 0xED, 0xA0, 0x80] := by
  have web := Collaborators.opensWeb_standard
  have isUtf8 : Encoding.ofLabel? "utf8" = some .utf8 := by rfl
  rcases utf8_stays_as_it_is web isUtf8 [0xE2, 0x82, 0xFF, 0xED, 0xA0, 0x80] with
    ⟨-, remote, afterwards⟩
  rcases afterwards (.ofSettings [.locale "latin1", .encodingRemote "utf8"]) {}
    [.localeToUtf8 [0xE9], .setLocale (some "utf8")] _ rfl rfl with ⟨leaves, converts⟩
  refine ⟨web, isUtf8, _, rfl, ?_, leaves, converts⟩
  apply remote
  rfl

end Session

end LinkCharset
