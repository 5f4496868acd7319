import LinkCharset.Session.Operation
import Mathlib.Tactic

/-! # What operations leave alone

An operation on a session changes the parts of it that it is about, and no others. Nothing changes
its options; conversions of remote text and of hosts change nothing but the world they are made in.
-/
namespace LinkCharset.Session

variable {ω σ : Type} (k : Collaborators ω σ) (s : Session ω σ)

theorem session_resolveLocale :
    ∃ locale world, (s.resolveLocale k).session = { s with locale, world } := by
  rw [resolveLocale]
  cases s.locale with
  | some locale => exact ⟨s.locale, s.world, rfl⟩
  | none => exact ⟨_, _, rfl⟩

theorem session_setCurrentAsLocale :
    ∃ locale world, (s.setCurrentAsLocale k).session =
      changeState { s with locale, world } (.setCurrent (s.resolveLocale k).value) := by
  rcases s.session_resolveLocale k with ⟨locale, world, left⟩
  refine ⟨locale, world, ?_⟩
  rw [← left]
  rfl

theorem session_remoteToUtf8 (input : Bytes) :
    ∃ world, (s.remoteToUtf8 k input).session = { s with world } := by
  rw [remoteToUtf8]
  cases s.remoteSource? with
  | none => exact ⟨s.world, rfl⟩
  | some source =>
    dsimp only
    cases (k.openSession s.world source utf8Label).1 with
    | ok codec => exact ⟨_, rfl⟩
    | error cause => exact ⟨_, rfl⟩

theorem session_encodeHost (host : Bytes) :
    ∃ world, (s.encodeHost k host).session = { s with world } := by
  rw [encodeHost]
  cases Utf8.validate host with
  | ok chars => exact ⟨_, rfl⟩
  | error fault => exact ⟨s.world, rfl⟩

theorem session_idnEncode (host : Bytes) (isUtf8 : Bool) :
    ∃ world, (s.idnEncode k host isUtf8).session = { s with world } := by
  rw [idnEncode]
  cases isUtf8 with
  | true => exact s.session_encodeHost k host
  | false =>
    rcases s.session_remoteToUtf8 k host with ⟨world, left⟩
    rw [if_neg (by simp), Outcome.andThen, left]
    cases (s.remoteToUtf8 k host).value with
    | error e => exact ⟨world, rfl⟩
    | ok converted => exact session_encodeHost k { s with world } converted.bytes

theorem session_openLocale (locale : String) :
    ∃ cached world, (s.openLocale k locale).session = { s with cached, world } := by
  rw [openLocale]
  dsimp only
  cases (k.openSession s.world locale utf8Label).1 with
  | ok codec => exact ⟨_, _, rfl⟩
  | error cause => exact ⟨_, _, rfl⟩

theorem session_localeCodec (locale : String) :
    ∃ cached world, (s.localeCodec k locale).session = { s with cached, world } := by
  rw [localeCodec]
  cases s.cached with
  | none => exact s.session_openLocale k locale
  | some cached =>
    dsimp only
    split
    · exact ⟨s.cached, s.world, rfl⟩
    · exact session_openLocale k { s with cached := none } locale

theorem session_localeThroughCodec (locale : String) (input : Bytes) :
    ∃ cached world, (s.localeThroughCodec k locale input).session = { s with cached, world } := by
  rcases s.session_localeCodec k locale with ⟨cached, world, left⟩
  rw [localeThroughCodec, Outcome.andThen, left]
  cases (s.localeCodec k locale).value with
  | none => exact ⟨cached, world, rfl⟩
  | some codec => exact ⟨_, world, rfl⟩

theorem session_localeToUtf8 (input : Bytes) :
    ∃ locale cached world, (s.localeToUtf8 k input).session = { s with locale, cached, world } := by
  rcases s.session_resolveLocale k with ⟨locale, world, left⟩
  rw [localeToUtf8, Outcome.andThen, left]
  cases (s.resolveLocale k).value with
  | none => exact ⟨locale, s.cached, world, rfl⟩
  | some label =>
    dsimp only
    split
    · exact ⟨locale, s.cached, world, rfl⟩
    · rcases session_localeThroughCodec k { s with locale, world } label input with
        ⟨cached, after, left'⟩
      exact ⟨locale, cached, after, left'⟩

theorem options_perform (op : Operation) : (s.perform k op).session.options = s.options := by
  cases op with
  | locale =>
    rcases s.session_resolveLocale k with ⟨locale, world, left⟩
    exact (congrArg Session.options left :)
  | setLocale locale => rfl
  | currentAsLocale =>
    rcases s.session_setCurrentAsLocale k with ⟨locale, world, left⟩
    exact (congrArg Session.options left :)
  | resetUtf8Encode => rfl
  | changeState change => rfl
  | remoteToUtf8 input =>
    rcases s.session_remoteToUtf8 k input with ⟨world, left⟩
    exact (congrArg Session.options left :)
  | localeToUtf8 input =>
    rcases s.session_localeToUtf8 k input with ⟨locale, cached, world, left⟩
    exact (congrArg Session.options left :)
  | idnEncode host isUtf8 =>
    rcases s.session_idnEncode k host isUtf8 with ⟨world, left⟩
    exact (congrArg Session.options left :)
  | idnDecode host => rfl

theorem options_performAll (history : List Operation) :
    (s.performAll k history).2.options = s.options := by
  induction history generalizing s with
  | nil => rfl
  | cons op history ih => exact (ih _).trans (s.options_perform k op)

end LinkCharset.Session
